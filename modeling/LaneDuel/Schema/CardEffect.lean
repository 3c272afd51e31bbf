/-
# LaneDuel.Schema.CardEffect -- the entry of one card

What a catalog says about a card: how it is shown and targeted, when it acts,
and the chain of calls that is its effect.
-/
import LaneDuel.Schema.Atom

namespace LaneDuel

set_option autoImplicit false

open Schema

structure CardEffect where
  name : String
  kind : Kind
  trigger : Trigger
  needsTarget : Bool
  targetFilter : Option TargetFilter
  passive : Bool
  uiMode : Option UiMode
  description : String
  aura : Option CountRaceAura
  effects : List Call
deriving Repr

namespace CardEffect

/-- The names of the calls, in order. -/
def atomNames (e : CardEffect) : List String := e.effects.map Call.name

/-- How the card is shown and targeted. -/
def headRecord :
    Record (String × Kind × Trigger × Bool × Option TargetFilter) :=
  .both (.required (.plain "name") .nonEmptyText)
    (.both (.required ⟨"kind", "type"⟩ (.word Kind .notMember))
      (.both (.defaulted (.plain "trigger") (.word Trigger .notMember) .onPlay)
        (.both (.defaulted ⟨"needs_target", "needsTarget"⟩ .bool false)
          (.optional ⟨"target_filter", "targetFilter"⟩ TargetFilter.record.codec))))

/-- What the card does. -/
def bodyRecord :
    Record (Bool × Option UiMode × String × Option CountRaceAura × List Call) :=
  .both (.defaulted (.plain "passive") .bool false)
    (.both (.optional ⟨"requires_ui_mode", "requiresUIMode"⟩ (.word UiMode .notMember))
      (.both (.defaulted (.plain "description") .text "")
        (.both (.optional (.plain "aura") CountRaceAura.record.codec)
          (.defaulted (.plain "effects") (.list Call.codec) []))))

def record : Record CardEffect :=
  (headRecord.both bodyRecord).iso
    (fun ((name, kind, trigger, needsTarget, filter), passive, uiMode, text, aura, effects) =>
      ⟨name, kind, trigger, needsTarget, filter, passive, uiMode, text, aura, effects⟩)
    (fun e => ((e.name, e.kind, e.trigger, e.needsTarget, e.targetFilter),
      e.passive, e.uiMode, e.description, e.aura, e.effects))

def codec : Codec CardEffect := record.codec

/-- The entry in writing; every call must be one that can be written. -/
def toJson (e : CardEffect) : Except Failure Json :=
  if e.effects.all Call.isWritable then .ok (codec.write e) else .error .tooDeepToWrite

end CardEffect

end LaneDuel
