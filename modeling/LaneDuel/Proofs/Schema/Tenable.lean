/-
# LaneDuel.Proofs.Schema.Tenable -- what makes an entry unreadable

Reading collects issues; only a value in a place where it cannot stand at all leaves nothing
to report.  Readers of values and records are `Tenable` as their parts are, so the one such
place is the name of a call (`CardEffect.read_eq_untenable_iff`): a list or an object there
cannot be looked up among the words of kinds.
-/
import LaneDuel.Loose.Value
import LaneDuel.Schema.CardEffect

namespace LaneDuel

set_option autoImplicit false

namespace Schema

variable {α β : Type}

namespace Verdict

theorem under_eq_untenable {step : Step} {v : Verdict α} :
    v.under step = .untenable ↔ v = .untenable := by
  cases v <;> simp [under]

theorem map_eq_untenable {f : α → β} {v : Verdict α} : v.map f = .untenable ↔ v = .untenable := by
  cases v <;> simp [map]

theorem both_eq_untenable {v : Verdict α} {w : Verdict β} :
    v.both w = .untenable ↔ v = .untenable ∨ w = .untenable := by
  cases v <;> cases w <;> simp [both]

theorem all_eq_untenable {vs : List (Verdict α)} : all vs = .untenable ↔ .untenable ∈ vs := by
  induction vs with
  | nil => simp [all]
  | cons v vs ih =>
      rw [all, map_eq_untenable, both_eq_untenable, ih, List.mem_cons]
      exact or_congr_left eq_comm

end Verdict

/-- Every value is read or has its issues. -/
structure Codec.Tenable (c : Codec α) : Prop where
  reads : ∀ v, c.read v ≠ .untenable

structure Record.Tenable (r : Record α) : Prop where
  reads : ∀ ms, r.read ms ≠ .untenable

/-! ## Values -/

namespace Codec

theorem wholeText_ne_untenable {s : String} {read : String → Verdict α}
    (h : read s ≠ .untenable) : wholeText s read ≠ .untenable := by
  rw [wholeText]
  split
  · exact nofun
  · exact h

@[simp] theorem tenable_text : text.Tenable := by
  refine ⟨fun v => ?_⟩
  cases v with
  | str s => exact nofun
  | null | bool _ | num _ | arr _ | obj _ => exact nofun

@[simp] theorem tenable_nonEmptyText : nonEmptyText.Tenable := by
  refine ⟨fun v => ?_⟩
  cases v with
  | str s =>
      simp only [nonEmptyText]
      refine wholeText_ne_untenable ?_
      split <;> exact nofun
  | null | bool _ | num _ | arr _ | obj _ => exact nofun

theorem intOfReal_ne_untenable (x : Double) : intOfReal x ≠ .untenable := by
  unfold intOfReal
  split
  · split <;> exact nofun
  · exact nofun
  · exact nofun

@[simp] theorem tenable_int : int.Tenable := by
  refine ⟨fun v => ?_⟩
  cases v with
  | num n =>
      cases n with
      | int n => exact nofun
      | real x => exact intOfReal_ne_untenable x
  | str s =>
      refine wholeText_ne_untenable ?_
      rw [intOfText]
      split <;> exact nofun
  | null | bool _ | arr _ | obj _ => exact nofun

@[simp] theorem tenable_atLeast (bound : Int) : (atLeast bound).Tenable := by
  refine ⟨fun v => ?_⟩
  simp only [atLeast]
  split
  · split <;> exact nofun
  · exact nofun
  · exact absurd ‹_› (tenable_int.reads v)

@[simp] theorem tenable_nat : nat.Tenable :=
  ⟨fun v => mt Verdict.map_eq_untenable.mp ((tenable_atLeast 0).reads v)⟩

theorem boolOfInt_ne_untenable (n : Int) : boolOfInt n ≠ .untenable := by
  rw [boolOfInt]
  split
  · exact nofun
  · split <;> exact nofun

@[simp] theorem tenable_bool : bool.Tenable := by
  refine ⟨fun v => ?_⟩
  cases v with
  | num n =>
      cases n with
      | int n =>
          simp only [bool]
          split
          · exact boolOfInt_ne_untenable n
          · exact nofun
      | real x =>
          simp only [bool]
          split
          · exact boolOfInt_ne_untenable _
          · exact nofun
  | str s =>
      refine wholeText_ne_untenable ?_
      rw [boolOfText]
      split <;> exact nofun
  | null | bool _ | arr _ | obj _ => exact nofun

@[simp] theorem tenable_word [Vocabulary α] (otherwise : IssueKind) :
    (word α otherwise).Tenable := by
  refine ⟨fun v => ?_⟩
  simp only [word]
  split
  · split <;> exact nofun
  · exact nofun

@[simp] theorem tenable_nullable {c : Codec α} (h : c.Tenable) : c.nullable.Tenable := by
  refine ⟨fun v => ?_⟩
  simp only [nullable]
  split
  · exact nofun
  · exact mt Verdict.map_eq_untenable.mp (h.reads v)

theorem untenable_mem_readItems {c : Codec α} {start : Nat} {vs : List Json} :
    .untenable ∈ readItems c start vs ↔ ∃ v ∈ vs, c.read v = .untenable := by
  induction vs generalizing start with
  | nil => simp [readItems]
  | cons v vs ih =>
      rw [readItems, List.mem_cons, ih, eq_comm, Verdict.under_eq_untenable]
      simp

/-- A list is unreadable as one of its items is. -/
theorem list_eq_untenable {c : Codec α} {v : Json} :
    (list c).read v = .untenable ↔ ∃ vs, v = .arr vs ∧ ∃ w ∈ vs, c.read w = .untenable := by
  cases v with
  | arr vs =>
      simp only [list, Verdict.all_eq_untenable, untenable_mem_readItems, Json.arr.injEq,
        exists_eq_left']
  | null | bool _ | num _ | str _ | obj _ => simp [list, Verdict.fault]

@[simp] theorem tenable_names : names.Tenable := by
  have texts : ∀ v, (list text).read v ≠ .untenable := by
    intro v unread
    obtain ⟨vs, -, w, -, unread⟩ := list_eq_untenable.mp unread
    exact tenable_text.reads w unread
  refine ⟨fun v => ?_⟩
  simp only [names]
  split
  · exact texts _
  · exact texts _

end Codec

/-! ## Records -/

namespace Record

variable {c : Codec α} {r : Record α} {r' : Record β}

@[simp] theorem tenable_nothing : nothing.Tenable := ⟨fun _ => nofun⟩

@[simp] theorem tenable_required (f : Field) (h : c.Tenable) : (required f c).Tenable := by
  refine ⟨fun ms => ?_⟩
  simp only [required]
  split
  · exact nofun
  · exact mt Verdict.under_eq_untenable.mp (h.reads _)

@[simp] theorem tenable_defaulted (f : Field) (absent : α) (h : c.Tenable) :
    (defaulted f c absent).Tenable := by
  refine ⟨fun ms => ?_⟩
  simp only [defaulted]
  split
  · exact nofun
  · exact mt Verdict.under_eq_untenable.mp (h.reads _)

@[simp] theorem tenable_optional (f : Field) (h : c.Tenable) : (optional f c).Tenable := by
  refine ⟨fun ms => ?_⟩
  simp only [optional]
  split
  · exact nofun
  · exact mt Verdict.under_eq_untenable.mp ((Codec.tenable_nullable h).reads _)

@[simp] theorem tenable_constant (f : Field) (value : String) : (constant f value).Tenable := by
  refine ⟨fun ms => ?_⟩
  simp only [constant]
  split
  · exact nofun
  · split <;> exact nofun
  · exact nofun

@[simp] theorem tenable_both_iff : (r.both r').Tenable ↔ r.Tenable ∧ r'.Tenable := by
  have parts : ∀ ms, (r.both r').read ms = .untenable ↔
      r.read ms = .untenable ∨ r'.read ms = .untenable := fun _ => Verdict.both_eq_untenable
  constructor
  · intro h
    exact ⟨⟨fun ms unread => h.reads ms ((parts ms).mpr (.inl unread))⟩,
      ⟨fun ms unread => h.reads ms ((parts ms).mpr (.inr unread))⟩⟩
  · rintro ⟨h, h'⟩
    exact ⟨fun ms unread => ((parts ms).mp unread).elim (h.reads ms) (h'.reads ms)⟩

/-- Beside a tenable record another one decides alone. -/
theorem both_eq_untenable_iff (h : r.Tenable) {ms : List (String × Json)} :
    (r.both r').read ms = .untenable ↔ r'.read ms = .untenable :=
  Verdict.both_eq_untenable.trans (or_iff_right (h.reads ms))

@[simp] theorem tenable_iso_iff {f : α → β} {g : β → α} : (r.iso f g).Tenable ↔ r.Tenable :=
  ⟨fun h => ⟨fun ms unread => h.reads ms (Verdict.map_eq_untenable.mpr unread)⟩,
    fun h => ⟨fun ms unread => h.reads ms (Verdict.map_eq_untenable.mp unread)⟩⟩

theorem noExtras_ne_untenable (fields : List Field) (ms : List (String × Json)) :
    noExtras fields ms ≠ .untenable := by
  rw [noExtras]
  split <;> exact nofun

/-- An object is unreadable as its members are. -/
theorem codec_eq_untenable {v : Json} :
    r.codec.read v = .untenable ↔ ∃ ms, v = .obj ms ∧ r.read ms = .untenable := by
  cases v with
  | obj ms =>
      simp only [codec, Verdict.map_eq_untenable, Verdict.both_eq_untenable,
        noExtras_ne_untenable, or_false, Json.obj.injEq, exists_eq_left']
  | null | bool _ | num _ | str _ | arr _ => simp [codec, Verdict.fault]

@[simp] theorem tenable_codec_iff : r.codec.Tenable ↔ r.Tenable := by
  constructor
  · exact fun h => ⟨fun ms unread => h.reads (.obj ms) (codec_eq_untenable.mpr ⟨ms, rfl, unread⟩)⟩
  · refine fun h => ⟨fun v unread => ?_⟩
    obtain ⟨ms, -, unread⟩ := codec_eq_untenable.mp unread
    exact h.reads ms unread

end Record

end Schema

open Schema

/-! ## Calls -/

theorem TargetFilter.tenable_record : TargetFilter.record.Tenable := by
  simp [TargetFilter.record, Condition.record]

/-- The parameters of a kind are read or have their issues. -/
theorem AtomKind.tenable_record (k : AtomKind) : k.record.Tenable := by
  cases k <;> simp [AtomKind.record, Atom.changeRecord, Atom.conditionalRecord, Atom.healthRecord,
    Atom.filterRecord, Atom.drawRecord, TargetFilter.tenable_record, Condition.record,
    CoinCondition.record, FieldRaceCondition.record, KillCondition.record, PlayerFilter.record,
    ClearFieldFilter.record]

namespace Call

theorem readUnknown_ne_untenable (v : Json) : readUnknown v ≠ .untenable := by
  cases v with
  | obj ms =>
      simp only [readUnknown]
      split <;> exact nofun
  | null | bool _ | num _ | str _ | arr _ => exact nofun

/-- A call is unreadable where its name cannot be looked up. -/
theorem read_eq_untenable_iff {v : Json} :
    codec.read v = .untenable ↔ ∃ name, v.get? "atom" = some name ∧ Loose.isKey name = false := by
  have known : ∀ k : AtomKind, (knownRecord k).codec.Tenable := by
    intro k
    simp [knownRecord, k.tenable_record]
  simp only [codec, read]
  split
  · rename_i items named
    simp [named, Loose.isKey]
  · rename_i ms named
    simp [named, Loose.isKey]
  · rename_i s named
    simp only [named, Option.some.injEq, exists_eq_left', Loose.isKey, Bool.true_eq_false, iff_false]
    split
    · rw [Verdict.map_eq_untenable, Verdict.under_eq_untenable]
      exact (known _).reads v
    · rw [Verdict.under_eq_untenable]
      exact readUnknown_ne_untenable v
  · rename_i list object _
    rw [Verdict.under_eq_untenable]
    refine iff_of_false (readUnknown_ne_untenable v) ?_
    rintro ⟨name, named, unkeyed⟩
    cases name with
    | arr items => exact list items named
    | obj ms => exact object ms named
    | null | bool _ | num _ | str _ => cases unkeyed

end Call

/-! ## Entries -/

namespace CardEffect

/-- Some call of a raw entry has a name that is a list or an object. -/
def ListsName (v : Json) : Prop :=
  ∃ calls, v.get? "effects" = some (.arr calls) ∧
    ∃ call ∈ calls, ∃ name, call.get? "atom" = some name ∧ Loose.isKey name = false

theorem calls_eq_untenable_iff {ms : List (String × Json)} :
    (Record.defaulted (.plain "effects") (.list Call.codec) []).read ms = .untenable ↔
      ListsName (.obj ms) := by
  have member : (Json.obj ms).get? "effects" = Json.find? ms "effects" := rfl
  simp only [Record.defaulted, Field.present?, Field.plain, ListsName, member]
  cases Json.find? ms "effects" with
  | none => simp
  | some v =>
      simp only [Verdict.under_eq_untenable, Codec.list_eq_untenable, Call.read_eq_untenable_iff,
        Option.some.injEq]

/-- An entry is unreadable where a call lists its name. -/
theorem read_eq_untenable_iff {v : Json} : codec.read v = .untenable ↔ ListsName v := by
  have head : headRecord.Tenable := by simp [headRecord, TargetFilter.tenable_record]
  have passive := Record.tenable_defaulted (.plain "passive") false Codec.tenable_bool
  have mode := Record.tenable_optional ⟨"requires_ui_mode", "requiresUIMode"⟩
    (Codec.tenable_word (α := UiMode) .notMember)
  have description := Record.tenable_defaulted (.plain "description") "" Codec.tenable_text
  have bonus : StatBonus.record.Tenable := by simp [StatBonus.record]
  have aura : CountRaceAura.record.codec.Tenable := by simp [CountRaceAura.record, bonus]
  have members : ∀ ms, record.read ms = .untenable ↔ ListsName (.obj ms) := by
    intro ms
    calc
      record.read ms = .untenable ↔ (headRecord.both bodyRecord).read ms = .untenable :=
        Verdict.map_eq_untenable
      _ ↔ bodyRecord.read ms = .untenable := Record.both_eq_untenable_iff head
      _ ↔ (Record.defaulted (.plain "effects") (.list Call.codec) []).read ms = .untenable := by
        rw [bodyRecord, Record.both_eq_untenable_iff passive, Record.both_eq_untenable_iff mode,
          Record.both_eq_untenable_iff description,
          Record.both_eq_untenable_iff (Record.tenable_optional _ aura)]
      _ ↔ ListsName (.obj ms) := calls_eq_untenable_iff
  rw [codec, Record.codec_eq_untenable]
  constructor
  · rintro ⟨ms, rfl, unread⟩
    exact (members ms).mp unread
  · intro lists
    obtain ⟨calls, there, -⟩ := id lists
    cases v with
    | obj ms => exact ⟨ms, rfl, (members ms).mpr lists⟩
    | null | bool _ | num _ | str _ | arr _ => cases there

end CardEffect

end LaneDuel
