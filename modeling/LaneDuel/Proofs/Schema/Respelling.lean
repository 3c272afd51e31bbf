/-
# LaneDuel.Proofs.Schema.Respelling -- entries read alike in either spelling

An entry, its target filter and its aura, and every call of a known kind with its filter and
its condition may spell each field that they declare in either way.  What an unknown call is
told is kept as it is, so nothing in it is respelled (`CardEffect.leeway`).

* `CardEffect.respelled_reads_alike`: a respelled entry is read as the same entry, or it has
  the same issues at the same places.  No entry is read in which an object has both spellings
  of a field.
-/
import LaneDuel.Proofs.Schema.Spelling
import LaneDuel.Schema.CardEffect

namespace LaneDuel

set_option autoImplicit false

open Schema

/-! ## Filters, conditions and auras -/

/-- The spelling of an object whose fields hold no objects. -/
def Schema.Record.flat {α : Type} (r : Record α) : Leeway := .object r.fields fun _ => .none

/-- The only object in an aura is its bonus. -/
def CountRaceAura.inside (f : Field) : Leeway :=
  if f.name = "bonus" then StatBonus.record.flat else .none

theorem Condition.follows_record : Condition.record.Follows fun _ => .none :=
  ((Record.follows_optional (Codec.follows_none _) rfl).both
    ((Record.follows_optional (Codec.follows_none _) rfl).both
      (Record.follows_optional (Codec.follows_none _) rfl))).iso _ _

theorem CoinCondition.follows_record : CoinCondition.record.Follows fun _ => .none :=
  (Condition.follows_record.both (Record.follows_required (Codec.follows_none _) rfl)).iso _ _

theorem FieldRaceCondition.follows_record : FieldRaceCondition.record.Follows fun _ => .none :=
  ((Record.follows_constant rfl _).both
    ((Record.follows_required (Codec.follows_none _) rfl).both
      (Record.follows_defaulted (Codec.follows_none _) rfl _))).iso _ _

theorem KillCondition.follows_record : KillCondition.record.Follows fun _ => .none :=
  (Record.follows_required (Codec.follows_none _) rfl).iso _ _

theorem TargetFilter.follows_record : TargetFilter.record.Follows fun _ => .none :=
  ((Record.follows_optional (Codec.follows_none _) rfl).both
    ((Record.follows_optional (Codec.follows_none _) rfl).both
      ((Record.follows_defaulted (Codec.follows_none _) rfl _).both
        Condition.follows_record))).iso _ _

theorem PlayerFilter.follows_record : PlayerFilter.record.Follows fun _ => .none :=
  (Record.follows_defaulted (Codec.follows_none _) rfl _).iso _ _

theorem ClearFieldFilter.follows_record : ClearFieldFilter.record.Follows fun _ => .none :=
  ((Record.follows_defaulted (Codec.follows_none _) rfl _).both
    (Record.follows_optional (Codec.follows_none _) rfl)).iso _ _

theorem StatBonus.follows_record : StatBonus.record.Follows fun _ => .none :=
  ((Record.follows_defaulted (Codec.follows_none _) rfl _).both
    (Record.follows_defaulted (Codec.follows_none _) rfl _)).iso _ _

theorem CountRaceAura.follows_record : CountRaceAura.record.Follows CountRaceAura.inside :=
  ((Record.follows_constant rfl _).both
    ((Record.follows_required (Codec.follows_none _) rfl).both
      ((Record.follows_required (Codec.follows_none _) rfl).both
        (Record.follows_required (StatBonus.follows_record.codec (by decide)) rfl)))).iso _ _

/-! ## Calls -/

namespace AtomKind

/-- The spelling of the filter of a call. -/
def filterLeeway : AtomKind → Leeway
  | playerHeal | playerDamage => PlayerFilter.record.flat
  | clearField => ClearFieldFilter.record.flat
  | _ => TargetFilter.record.flat

/-- The spelling of the condition of a call. -/
def conditionLeeway : AtomKind → Leeway
  | gainCoins => CoinCondition.record.flat
  | conditionalKillPlayer => KillCondition.record.flat
  | drawCards => FieldRaceCondition.record.flat
  | _ => Condition.record.flat

/-- The only objects in a call are its filter and its condition. -/
def inside (k : AtomKind) (f : Field) : Leeway :=
  if f.name = "filter" then k.filterLeeway
  else if f.name = "condition" then k.conditionLeeway
  else .none

end AtomKind

namespace Atom

variable {inside : Field → Leeway}

theorem follows_filterRecord (filter : inside (.plain "filter") = TargetFilter.record.flat) :
    filterRecord.Follows inside :=
  Record.follows_required (TargetFilter.follows_record.codec (by decide)) filter

theorem follows_changeRecord (amount : inside (.plain "amount") = .none)
    (filter : inside (.plain "filter") = TargetFilter.record.flat)
    (condition : inside (.plain "condition") = Condition.record.flat) :
    changeRecord.Follows inside :=
  (Record.follows_required (Codec.follows_none _) amount).both
    ((follows_filterRecord filter).both
      (Record.follows_optional (Condition.follows_record.codec (by decide)) condition))

theorem follows_healthRecord (absent : Party) (amount : inside (.plain "amount") = .none)
    (filter : inside (.plain "filter") = PlayerFilter.record.flat) :
    (healthRecord absent).Follows inside :=
  (Record.follows_required (Codec.follows_none _) amount).both
    (Record.follows_defaulted (PlayerFilter.follows_record.codec (by decide)) filter _)

end Atom

theorem AtomKind.follows_record (k : AtomKind) : k.record.Follows k.inside := by
  have condition := Condition.follows_record.codec (by decide)
  have target := TargetFilter.follows_record.codec (by decide)
  cases k with
  | modifyAtk | modifyHp => exact Atom.follows_changeRecord rfl rfl rfl
  | conditionalModifyAtk | conditionalModifyHp =>
      exact (Record.follows_required (Codec.follows_none _) rfl).both
        ((Record.follows_required (Codec.follows_none _) rfl).both
          ((Record.follows_required condition rfl).both (Record.follows_required target rfl)))
  | playerHeal | playerDamage => exact Atom.follows_healthRecord _ rfl rfl
  | killCard | removeDebuffs | addImmunity => exact Atom.follows_filterRecord rfl
  | clearField =>
      exact Record.follows_optional (ClearFieldFilter.follows_record.codec (by decide)) rfl
  | freeze =>
      exact (Record.follows_required (Codec.follows_none _) rfl).both
        (Atom.follows_filterRecord rfl)
  | gainCoins =>
      exact (Record.follows_required (Codec.follows_none _) rfl).both
        (Record.follows_optional (CoinCondition.follows_record.codec (by decide)) rfl)
  | conditionalKillPlayer =>
      exact Record.follows_required (KillCondition.follows_record.codec (by decide)) rfl
  | cascadeDamage | drawFromDiscard | swapRandomHands | freezeOnFirstAttack | uiModeMessage =>
      exact Record.follows_required (Codec.follows_none _) rfl
  | drawCards =>
      exact (Record.follows_required (Codec.follows_none _) rfl).both
        ((Record.follows_defaulted (Codec.follows_none _) rfl _).both
          (Record.follows_optional (FieldRaceCondition.follows_record.codec (by decide)) rfl))
  | discardAndRedraw | hellLordBonus | swapBattlefields | skipTurn =>
      exact Record.follows_nothing

namespace Call

theorem separate_fields (k : AtomKind) : Separate (knownRecord k).fields := by
  cases k <;> decide

/-- The spelling of a call.  One by a name that is no kind is not respelled. -/
def leeway : Leeway where
  Respells v v' := v = v' ∨ ∃ k : AtomKind, v.get? "atom" = some (.str k.word) ∧
    (Leeway.object (knownRecord k).fields k.inside).Respells v v'
  Doubles v := ∃ k : AtomKind, v.get? "atom" = some (.str k.word) ∧
    (Leeway.object (knownRecord k).fields k.inside).Doubles v
  refl _ := .inl rfl
  null := by
    rintro v v' (rfl | ⟨k, -, respells⟩)
    · rfl
    · exact (Leeway.object _ _).null v v' respells
  solid := by
    rintro ⟨k, -, doubles⟩
    exact (Leeway.object _ _).solid doubles

theorem follows_codec_of (k : AtomKind) :
    (knownRecord k).codec.Follows (.object (knownRecord k).fields k.inside) :=
  Record.Follows.codec (((Record.follows_constant rfl _).both k.follows_record).iso _ _)
    (separate_fields k)

theorem read_of_named {k : AtomKind} {v : Json} (named : v.get? "atom" = some (.str k.word)) :
    read v = (((knownRecord k).codec.read v).under (.key k.word)).map fun p => .known (.of k p) := by
  have word : (Vocabulary.read? k.word : Option AtomKind) = some k := Vocabulary.read?_word k
  simp only [read, named, word]

/-- A call keeps its name when it is respelled. -/
theorem get?_atom_respelled {k : AtomKind} {v v' : Json}
    (respells : (Leeway.object (knownRecord k).fields k.inside).Respells v v') :
    v.get? "atom" = v'.get? "atom" := by
  obtain rfl | ⟨ms, ms', rfl, rfl, respelled⟩ := respells
  · rfl
  · have seen := seenAlike_of_respelled (separate_fields k) (forall₂_paired respelled)
      (f := atomField) List.mem_cons_self
    have found : ∀ ms : Members, Json.find? ms "atom" = (atomField.present? ms).map Prod.snd := by
      intro ms
      rw [atomField, Field.present?_plain, Option.map_map]
      exact Option.map_id'.symm
    change Json.find? ms "atom" = Json.find? ms' "atom"
    rw [found, found]
    cases seen with
    | absent left right => rw [left, right]
    | there left right _ same =>
        cases same
        rw [left, right]
        rfl

theorem follows_codec : codec.Follows leeway where
  agrees v v' respells := by
    obtain rfl | ⟨k, named, respells⟩ := respells
    · exact .refl _ _
    · have named' := (get?_atom_respelled respells).symm.trans named
      change Verdict.Agree v v' (read v) (read v')
      rw [read_of_named named, read_of_named named']
      exact (((follows_codec_of k).agrees v v' respells).under
        fun _ _ place => .tag named place).map _
  single v doubles c readCall := by
    obtain ⟨k, named, doubles⟩ := doubles
    obtain ⟨p, readCall, -⟩ := Verdict.map_eq_ok ((read_of_named named).symm.trans readCall)
    exact (follows_codec_of k).single v doubles p (Verdict.under_eq_ok readCall)

end Call

/-! ## Entries -/

namespace CardEffect

/-- The objects in an entry are its target filter, its aura and its calls. -/
def inside (f : Field) : Leeway :=
  if f.name = "target_filter" then TargetFilter.record.flat
  else if f.name = "aura" then .object CountRaceAura.record.fields CountRaceAura.inside
  else if f.name = "effects" then Call.leeway.list
  else .none

/-- The spelling of an entry. -/
def leeway : Leeway := .object record.fields inside

example : (record.fields.filter fun f => f.name ≠ f.preferred).map Field.preferred
    = ["type", "needsTarget", "targetFilter", "requiresUIMode"] := by decide

theorem follows_headRecord : headRecord.Follows inside :=
  (Record.follows_required (Codec.follows_none _) rfl).both
    ((Record.follows_required (Codec.follows_none _) rfl).both
      ((Record.follows_defaulted (Codec.follows_none _) rfl _).both
        ((Record.follows_defaulted (Codec.follows_none _) rfl _).both
          (Record.follows_optional (TargetFilter.follows_record.codec (by decide)) rfl))))

theorem follows_bodyRecord : bodyRecord.Follows inside :=
  (Record.follows_defaulted (Codec.follows_none _) rfl _).both
    ((Record.follows_optional (Codec.follows_none _) rfl).both
      ((Record.follows_defaulted (Codec.follows_none _) rfl _).both
        ((Record.follows_optional (CountRaceAura.follows_record.codec (by decide)) rfl).both
          (Record.follows_defaulted Call.follows_codec.list rfl _))))

theorem follows_codec : codec.Follows leeway :=
  ((follows_headRecord.both follows_bodyRecord).iso _ _).codec (by decide)

/-- **Both spellings.**  A respelled entry is read as the same entry, or it has the same issues
in the same order at the same places, or it is as untenable.  Nothing is read in which an
object has both spellings of a field. -/
theorem respelled_reads_alike :
    (∀ v v', leeway.Respells v v' →
      (∀ e, codec.read v = .ok e ↔ codec.read v' = .ok e) ∧
      (∀ is, codec.read v = .refused is →
        ∃ is', codec.read v' = .refused is' ∧ List.Forall₂ (Issue.Alike v v') is is') ∧
      (codec.read v = .untenable ↔ codec.read v' = .untenable)) ∧
    ∀ v, leeway.Doubles v → ∀ e, codec.read v ≠ .ok e := by
  refine ⟨fun v v' respells => ?_, follows_codec.single⟩
  have agree := follows_codec.agrees v v' respells
  exact ⟨agree.ok_iff, fun _ => agree.exists_refused, agree.untenable_iff⟩

end CardEffect

namespace Example

/-- An entry with a call, the keys of the kind and of the damage open to spelling. -/
def hail (kind damage : String) (more : Members) (amount : Int) : Json := .obj [
  ("name", .str "hail"),
  (kind, .str "miracle"),
  ("effects", .arr [.obj (("atom", .str "cascadeDamage") :: (damage, .int amount) :: more)])]

theorem hail_respelled (amount : Int) :
    CardEffect.leeway.Respells (hail "type" "baseDamage" [] amount)
      (hail "kind" "base_damage" [] amount) := by
  have call : Call.leeway.Respells
      (.obj [("atom", .str "cascadeDamage"), ("baseDamage", .int amount)])
      (.obj [("atom", .str "cascadeDamage"), ("base_damage", .int amount)]) := by
    refine .inr ⟨.cascadeDamage, rfl, .inr ⟨_, _, rfl, rfl, .cons (.kept _) (.cons ?_ .nil)⟩⟩
    refine .declared (f := ⟨"base_damage", "baseDamage"⟩) (by decide) (by decide) (by decide)
      (.inr ⟨fun both => ?_, fun both => ?_⟩) rfl
    · simpa using both.name
    · simpa using both.preferred
  refine .inr ⟨_, _, rfl, rfl, .cons (.kept _) (.cons ?_ (.cons ?_ .nil))⟩
  · refine .declared (f := ⟨"kind", "type"⟩) (by decide) (by decide) (by decide)
      (.inr ⟨fun both => ?_, fun both => ?_⟩) rfl
    · simpa using both.name
    · simpa using both.preferred
  · exact .declared (f := .plain "effects") (by decide) (by decide) (by decide) (.inl rfl)
      (.inr ⟨_, _, rfl, rfl, .cons call .nil⟩)

/-- A call with both spellings of its damage. -/
theorem hail_doubled (amount : Int) :
    CardEffect.leeway.Doubles (hail "type" "baseDamage" [("base_damage", .int 3)] amount) := by
  have both : Field.Doubled ⟨"base_damage", "baseDamage"⟩
      [("atom", .str "cascadeDamage"), ("baseDamage", .int amount), ("base_damage", .int 3)] :=
    ⟨by decide, by simp, by simp⟩
  refine ⟨_, rfl, .plain "effects", by decide, .inr ⟨"effects", _, by decide, rfl, ?_⟩⟩
  exact ⟨_, rfl, _, List.mem_cons_self, .cascadeDamage, rfl, _, rfl, _, by decide, .inl both⟩

/-- The hail is read in either spelling, has one issue in each, and is not read in both. -/
theorem hail_reads_alike :
    (∃ e, CardEffect.codec.read (hail "type" "baseDamage" [] 3) = .ok e ∧
      CardEffect.codec.read (hail "kind" "base_damage" [] 3) = .ok e) ∧
    (∃ i, CardEffect.codec.read (hail "kind" "base_damage" [] (-1)) = .refused [i] ∧
      i.path = [.key "effects", .index 0, .key "cascadeDamage", .key "base_damage"] ∧
      Issue.Alike (hail "type" "baseDamage" [] (-1)) (hail "kind" "base_damage" [] (-1))
        ⟨[.key "effects", .index 0, .key "cascadeDamage", .key "baseDamage"], .tooSmall⟩ i) ∧
    ∀ e, CardEffect.codec.read (hail "type" "baseDamage" [("base_damage", .int 3)] 3) ≠ .ok e := by
  obtain ⟨alike, single⟩ := CardEffect.respelled_reads_alike
  obtain ⟨accepts, -, -⟩ := alike _ _ (hail_respelled 3)
  obtain ⟨-, refuses, -⟩ := alike _ _ (hail_respelled (-1))
  refine ⟨⟨_, rfl, (accepts _).mp rfl⟩, ?_, single _ (hail_doubled 3)⟩
  obtain ⟨is, refused, same⟩ := refuses _ rfl
  cases refused
  cases same with
  | cons first _ => exact ⟨_, rfl, rfl, first⟩

end Example

end LaneDuel
