/-
# LaneDuel.Loose.Card -- cards as documents give them

A loose card has the fields of a card with values of any type.  Its kind is
settled when the card is read or copied; the turn loop may put another value in
its place afterwards.

* `Card.ofJson` needs a number, an instance id, a name and a kind, asked for in
  that order; the upper limit of the hit points defaults to the hit points.
* `Card.check?` is the card that it is, if every field has the type it should.
-/
import LaneDuel.Card
import LaneDuel.Loose.Value

namespace LaneDuel.Loose

set_option autoImplicit false

/-- The kind of a card, or what was put in its place. -/
inductive KindMark where
  | kind (k : Kind)
  | value (v : Json)
deriving DecidableEq, Repr

namespace KindMark

/-- The kind as a value. -/
def plain : KindMark → Json
  | kind k => .str (Vocabulary.word k)
  | value v => v

def isKind (m : KindMark) (k : Kind) : Bool := same m.plain (.str (Vocabulary.word k))

/-- A kind for certain. -/
def settle : KindMark → Except Failure Kind
  | kind k => .ok k
  | value v => Vocabulary.ofJson "CardKind" v

end KindMark

structure Card where
  cardId : Json
  instanceId : Json
  name : Json
  kind : KindMark
  rarity : Json
  primaryRace : Json
  secondaryRace : Json
  atk : Json
  hp : Json
  maxHp : Json
  cost : Json
  effect : Json
  frozen : Json
  immune : Json
  abilityUsed : Json
  firstActionUsed : Json
deriving DecidableEq, Repr

namespace Card

/-! ## Documents -/

/-- A field that must be there. -/
def required (ms : List (String × Json)) (key : String) : Except Failure Json :=
  match Json.find? ms key with
  | some v => .ok v
  | none => .error (.game (.invalidState none key))

/-- The kind of a card in a document; an unknown one makes the state invalid. -/
def readKind (v : Json) : Except Failure Kind :=
  match Vocabulary.ofJson "CardKind" v with
  | .ok k => .ok k
  | .error e => .error (.game (.invalidState e.valueText? "kind"))

/-- A card from the values of its fields. -/
def ofFields (field : String → Json → Json) (kind : Kind) : Card where
  cardId := field "card_id" .null
  instanceId := field "instance_id" .null
  name := field "name" .null
  kind := .kind kind
  rarity := field "rarity" (.str "")
  primaryRace := field "primary_race" (.str "")
  secondaryRace := field "secondary_race" (.str "")
  atk := field "atk" (.int 0)
  hp := field "hp" (.int 0)
  maxHp := field "max_hp" (field "hp" (.int 0))
  cost := field "cost" (.int 0)
  effect := field "effect" (.str "")
  frozen := field "frozen" (.int 0)
  immune := field "immune" (.bool false)
  abilityUsed := field "ability_used" (.bool false)
  firstActionUsed := field "first_action_used" (.bool false)

def ofJson (v : Json) : Except Failure Card := do
  let .obj ms := v | .error .noFields
  let _ ← required ms "card_id"
  let _ ← required ms "instance_id"
  let _ ← required ms "name"
  let kind ← readKind (← required ms "kind")
  return ofFields (fun key absent => (Json.find? ms key).getD absent) kind

/-- The document of a card with a given value for its kind. -/
def document (c : Card) (kind : Json) : Json := .obj [
  ("card_id", c.cardId),
  ("instance_id", c.instanceId),
  ("name", c.name),
  ("kind", kind),
  ("rarity", c.rarity),
  ("primary_race", c.primaryRace),
  ("secondary_race", c.secondaryRace),
  ("atk", c.atk),
  ("hp", c.hp),
  ("max_hp", c.maxHp),
  ("cost", c.cost),
  ("effect", c.effect),
  ("frozen", c.frozen),
  ("immune", c.immune),
  ("ability_used", c.abilityUsed),
  ("first_action_used", c.firstActionUsed)]

/-- The document of a card, if its kind is one. -/
def toJson (c : Card) : Except Failure Json :=
  match c.kind with
  | .kind k => .ok (c.document (.str (Vocabulary.word k)))
  | .value _ => .error .noFields

/-! ## Checked cards -/

def ofChecked (c : LaneDuel.Card) : Card where
  cardId := .int c.cardId
  instanceId := .str c.instanceId
  name := .str c.name
  kind := .kind c.kind
  rarity := .str c.rarity
  primaryRace := .str c.primaryRace
  secondaryRace := .str c.secondaryRace
  atk := .int c.atk
  hp := .int c.hp
  maxHp := .int c.maxHp
  cost := .num c.cost
  effect := .str c.effect
  frozen := .int c.frozen
  immune := .bool c.immune
  abilityUsed := .bool c.abilityUsed
  firstActionUsed := .bool c.firstActionUsed

def check? : Card → Option LaneDuel.Card
  | ⟨.num (.int cardId), .str instanceId, .str name, .kind kind, .str rarity, .str primaryRace,
      .str secondaryRace, .num (.int atk), .num (.int hp), .num (.int maxHp), .num cost,
      .str effect, .num (.int frozen), .bool immune, .bool abilityUsed, .bool firstActionUsed⟩ =>
    some ⟨cardId, instanceId, name, kind, rarity, primaryRace, secondaryRace, atk, hp, maxHp,
      cost, effect, frozen, immune, abilityUsed, firstActionUsed⟩
  | _ => none

@[simp] theorem check?_ofChecked (c : LaneDuel.Card) : (ofChecked c).check? = some c := rfl

/-! ## What a card tells of itself -/

/-- The race labels that are not falsy. -/
def races (c : Card) : List Json := [c.primaryRace, c.secondaryRace].filter Json.truthy

/-- One of the two race slots is in a set; the second is only looked up where the
first is not. -/
def hasRace (c : Card) (set : List Json) : Except Failure Bool := do
  if ← isAmong set c.primaryRace then return true else isAmong set c.secondaryRace

def hasAnyRace (c : Card) (races : List String) : Except Failure Bool :=
  c.hasRace (races.map .str)

def isRarity (c : Card) (rarity : String) : Bool := same c.rarity (.str rarity)

def isFrozen (c : Card) : Except Failure Bool := less (.int 0) c.frozen

def isMiracle (c : Card) : Bool := c.kind.isKind .miracle

/-- Number, name, attack and hit points in short. -/
def summary (c : Card) : String :=
  "CardInstance(" ++ c.cardId.plain ++ ", " ++ c.name.plain ++ ", " ++ c.atk.plain ++ "/"
    ++ c.hp.plain ++ ")"

/-- A copy, whose kind is settled. -/
def copy (c : Card) : Except Failure Card :=
  c.kind.settle.map fun k => { c with kind := .kind k }

/-- Set a field by its name. -/
def set (c : Card) (key : String) (v : Json) : Except Failure Card :=
  match key with
  | "card_id" => .ok { c with cardId := v }
  | "instance_id" => .ok { c with instanceId := v }
  | "name" => .ok { c with name := v }
  | "kind" => .ok { c with kind := .value v }
  | "rarity" => .ok { c with rarity := v }
  | "primary_race" => .ok { c with primaryRace := v }
  | "secondary_race" => .ok { c with secondaryRace := v }
  | "atk" => .ok { c with atk := v }
  | "hp" => .ok { c with hp := v }
  | "max_hp" => .ok { c with maxHp := v }
  | "cost" => .ok { c with cost := v }
  | "effect" => .ok { c with effect := v }
  | "frozen" => .ok { c with frozen := v }
  | "immune" => .ok { c with immune := v }
  | "ability_used" => .ok { c with abilityUsed := v }
  | "first_action_used" => .ok { c with firstActionUsed := v }
  | _ => .error .noFields

end Card

/-! ## New cards -/

/-- The fields that a template must have, and those it may have. -/
def Card.templateNames : List String × List String :=
  (["card_id", "name", "kind"],
    ["rarity", "primary_race", "secondary_race", "atk", "hp", "cost", "effect"])

/-- A new card from the fields of a template, under an instance id; it has its
full hit points. -/
def Card.create (ms : List (String × Json)) (instanceId : String) : Except Failure Card := do
  let (required, optional) := templateNames
  if ms.any fun (k, _) => !(required ++ optional).contains k then .error .wrongType
  else if required.any fun k => (Json.find? ms k).isNone then .error .wrongType
  else
    let kind ← Vocabulary.ofJson "CardKind" ((Json.find? ms "kind").getD .null)
    let card := ofFields (fun key absent => (Json.find? ms key).getD absent) kind
    return { card with instanceId := .str instanceId }

end LaneDuel.Loose
