/-
# LaneDuel.Proofs.Catalog.Kept -- what loading a raw catalog keeps

A raw catalog is a dictionary: pairs in an order, each key once, where a key that is given
again keeps its place and takes the new value.  Its keys are texts, and several of them may
spell one number.

A pair does one of three things (`pair_cases`): it is a remark, it enters an entry under
its number, or it is faulty, whatever the catalog has so far.  So loading fails in the first
faulty pair, whatever comes after it, and otherwise keeps for each number that is spelled the
entry of the last pair that spells it (`Kept`).

* `Catalog.loads_last_spelled`: both, for the dictionary of any pairs.
-/
import Mathlib.Data.List.Induction
import Mathlib.Data.List.Sort
import LaneDuel.Loose.Catalog
import LaneDuel.Proofs.Catalog.Documents
import LaneDuel.Proofs.Loose.Typed

namespace LaneDuel

set_option autoImplicit false

/-! ## Dictionaries -/

theorem lookup_cons_ite {α β : Type} [DecidableEq α] (key : α) (p : α × β) (ps : List (α × β)) :
    (p :: ps).lookup key = if key = p.1 then some p.2 else ps.lookup key := by
  obtain ⟨k, v⟩ := p
  by_cases here : key = k
  · simp [here]
  · simp [List.lookup_cons, here, beq_eq_false_iff_ne.mpr here]

namespace Json

theorem find?_set (ms : List (String × Json)) (key other : String) (v : Json) :
    find? (set ms key v) other = if other = key then some v else find? ms other := by
  induction ms with
  | nil => simp [set, find?, lookup_cons_ite]
  | cons p ms ih =>
      obtain ⟨k, w⟩ := p
      simp only [find?] at ih
      by_cases here : k = key <;> by_cases found : other = k <;>
        simp_all [set, find?, lookup_cons_ite]

theorem keys_set (ms : List (String × Json)) (key : String) (v : Json) :
    (set ms key v).map Prod.fst
      = if key ∈ ms.map Prod.fst then ms.map Prod.fst else ms.map Prod.fst ++ [key] := by
  induction ms with
  | nil => rfl
  | cons p ms ih =>
      obtain ⟨k, w⟩ := p
      by_cases here : k = key
      · simp [set, here]
      · rw [set, if_neg here, List.map_cons, ih, List.map_cons]
        by_cases later : key ∈ ms.map Prod.fst <;> simp [later, Ne.symm here]

theorem members_concat (pairs : List (String × Json)) (p : String × Json) :
    members (pairs ++ [p]) = set (members pairs) p.1 p.2 := by
  rw [members, List.foldl_append]
  rfl

/-- A key that is given again keeps its first position. -/
theorem keys_members (pairs : List (String × Json)) :
    (members pairs).map Prod.fst = (pairs.map Prod.fst).eraseDups := by
  induction pairs using List.reverseRecOn with
  | nil => rfl
  | append_singleton pairs p ih =>
      rw [members_concat, keys_set, ih, List.map_append, List.eraseDups_append]
      by_cases known : p.1 ∈ pairs.map Prod.fst
      · simp [known, List.removeAll]
      · simp [known, List.removeAll, List.eraseDups_cons]

/-- A key that is given again has its last value. -/
theorem find?_members (pairs : List (String × Json)) (key : String) :
    find? (members pairs) key = pairs.reverse.lookup key := by
  induction pairs using List.reverseRecOn with
  | nil => rfl
  | append_singleton pairs p ih =>
      rw [members_concat, find?_set, ih, List.reverse_concat, lookup_cons_ite]

end Json

namespace Catalog

/-! ## Pairs -/

/-- The pair is no remark, and its key spells the number. -/
def Spells (pair : String × Json) (n : Int) : Prop :=
  isRemark pair.1 = false ∧ Text.readInt? pair.1 = some n

/-- The pair puts an entry in under a number. -/
structure Enters (pair : String × Json) (n : Int) (e : CardEffect) : Prop where
  spells : Spells pair n
  positive : 0 < n
  read : CardEffect.codec.read pair.2 = .ok e

/-- What is wrong with a key. -/
def keyMessage (key : String) : String := "invalid card id: " ++ Text.quote key

/-- What is wrong with a pair, whatever stands before it: its key is no integer, or none that
is positive, or its value is no entry. -/
inductive Faulty (pair : String × Json) : Failure → Prop where
  | unnumbered (counts : isRemark pair.1 = false) (unread : Text.readInt? pair.1 = none) :
    Faulty pair (.game (.catalog (keyMessage pair.1) none none))
  | notPositive {n : Int} (spells : Spells pair n) (low : n ≤ 0) :
    Faulty pair (.game (.catalog (keyMessage pair.1) (some n) none))
  | misfit {n : Int} {issues : List Schema.Issue} (spells : Spells pair n) (positive : 0 < n)
    (refused : CardEffect.codec.read pair.2 = .refused issues) :
    Faulty pair (.misfitEntry n issues)
  | unreadable {n : Int} (spells : Spells pair n) (positive : 0 < n)
    (untenable : CardEffect.codec.read pair.2 = .untenable) : Faulty pair .wrongType

theorem Spells.unique {pair : String × Json} {n m : Int} (h : Spells pair n) (h' : Spells pair m) :
    n = m := Option.some.inj (h.2.symm.trans h'.2)

theorem not_spells_of_isRemark {pair : String × Json} (remark : isRemark pair.1 = true) (n : Int) :
    ¬ Spells pair n := fun spells => Bool.false_ne_true (spells.1.symm.trans remark)

theorem readId_of_spells {pair : String × Json} {n : Int} (spells : Spells pair n)
    (positive : 0 < n) : readId pair.1 = .ok n := by
  simp only [readId, spells.2, if_neg (not_le.mpr positive)]

theorem addPair_of_counts {pair : String × Json} (counts : isRemark pair.1 = false) (c : Catalog) :
    addPair c pair = (readId pair.1 >>= fun id => readEntry id pair.2 >>= fun e =>
      .ok (c.register id e)) := by
  rw [addPair, counts, if_neg Bool.false_ne_true]
  rfl

/-- **One pair** is a remark, enters an entry or is faulty. -/
theorem pair_cases (pair : String × Json) :
    isRemark pair.1 = true ∨ (∃ n e, Enters pair n e) ∨ ∃ f, Faulty pair f := by
  cases counts : isRemark pair.1 with
  | true => exact .inl rfl
  | false =>
      refine .inr ?_
      cases spelled : Text.readInt? pair.1 with
      | none => exact .inr ⟨_, .unnumbered counts spelled⟩
      | some n =>
          by_cases low : n ≤ 0
          · exact .inr ⟨_, .notPositive ⟨counts, spelled⟩ low⟩
          · have positive : 0 < n := not_le.mp low
            cases read : CardEffect.codec.read pair.2 with
            | ok e => exact .inl ⟨n, e, ⟨counts, spelled⟩, positive, read⟩
            | refused issues => exact .inr ⟨_, .misfit ⟨counts, spelled⟩ positive read⟩
            | untenable => exact .inr ⟨_, .unreadable ⟨counts, spelled⟩ positive read⟩

theorem addPair_of_isRemark {pair : String × Json} (remark : isRemark pair.1 = true) (c : Catalog) :
    addPair c pair = .ok c := by rw [addPair, if_pos remark]

theorem addPair_of_enters {pair : String × Json} {n : Int} {e : CardEffect}
    (enters : Enters pair n e) (c : Catalog) : addPair c pair = .ok (c.register n e) := by
  rw [addPair_of_counts enters.spells.1, readId_of_spells enters.spells enters.positive]
  simp only [readEntry, enters.read]
  rfl

/-- A faulty pair fails in the same way whatever the catalog has so far. -/
theorem addPair_of_faulty {pair : String × Json} {f : Failure} (faulty : Faulty pair f)
    (c : Catalog) : addPair c pair = .error f := by
  cases faulty with
  | unnumbered counts unread =>
      rw [addPair_of_counts counts]
      simp only [readId, unread]
      rfl
  | notPositive spells low =>
      rw [addPair_of_counts spells.1]
      simp only [readId, spells.2, if_pos low]
      rfl
  | misfit spells positive refused =>
      rw [addPair_of_counts spells.1, readId_of_spells spells positive]
      simp only [readEntry, refused]
      rfl
  | unreadable spells positive untenable =>
      rw [addPair_of_counts spells.1, readId_of_spells spells positive]
      simp only [readEntry, untenable]
      rfl

theorem faulty_of_addPair {c : Catalog} {pair : String × Json} {f : Failure}
    (failed : addPair c pair = .error f) : Faulty pair f := by
  obtain remark | ⟨n, e, enters⟩ | ⟨g, faulty⟩ := pair_cases pair
  · cases (addPair_of_isRemark remark c).symm.trans failed
  · cases (addPair_of_enters enters c).symm.trans failed
  · cases (addPair_of_faulty faulty c).symm.trans failed
    exact faulty

/-! ## All pairs -/

/-- The last of some pairs that spells the number enters the entry. -/
def LastEnters (ms : List (String × Json)) (n : Int) (e : CardEffect) : Prop :=
  ∃ before pair after, ms = before ++ pair :: after ∧ Enters pair n e ∧
    ∀ later ∈ after, ¬ Spells later n

/-- The first faulty pair among some pairs fails in this way. -/
def FirstFaulty (ms : List (String × Json)) (f : Failure) : Prop :=
  ∃ before pair after, ms = before ++ pair :: after ∧ (∀ earlier ∈ before, ∀ g, ¬ Faulty earlier g) ∧
    Faulty pair f

theorem lastEnters_concat {ms : List (String × Json)} {pair : String × Json} {n : Int}
    {e : CardEffect} :
    LastEnters (ms ++ [pair]) n e ↔ Enters pair n e ∨ ¬ Spells pair n ∧ LastEnters ms n e := by
  constructor
  · rintro ⟨before, entered, after, split, enters, later⟩
    obtain rfl | ⟨after, last, rfl⟩ := List.eq_nil_or_concat after
    · obtain ⟨-, same⟩ := List.append_inj' split rfl
      cases same
      exact .inl enters
    · rw [List.concat_eq_append] at split later
      rw [← List.cons_append, ← List.append_assoc] at split
      obtain ⟨rfl, same⟩ := List.append_inj' split rfl
      cases same
      rw [List.forall_mem_append] at later
      exact .inr ⟨later.2 _ List.mem_cons_self, before, entered, after, rfl, enters, later.1⟩
  · rintro (enters | ⟨silent, before, entered, after, rfl, enters, later⟩)
    · exact ⟨ms, pair, [], rfl, enters, fun _ mem => absurd mem List.not_mem_nil⟩
    · refine ⟨before, entered, after ++ [pair], by simp, enters, ?_⟩
      rw [List.forall_mem_append]
      exact ⟨later, fun last mem => List.mem_singleton.mp mem ▸ silent⟩

/-- A pair that does not spell the number changes nothing for it. -/
theorem lastEnters_concat_of_silent {ms : List (String × Json)} {pair : String × Json} {n : Int}
    (silent : ¬ Spells pair n) (e : CardEffect) :
    LastEnters (ms ++ [pair]) n e ↔ LastEnters ms n e := by
  have enters : ¬ Enters pair n e := fun enters => silent enters.spells
  rw [lastEnters_concat, or_iff_right enters, and_iff_right silent]

theorem get?_register (c : Catalog) (id n : Int) (e : CardEffect) :
    (c.register id e).get? n = if n = id then some e else c.get? n := by
  obtain ⟨entries⟩ := c
  simp only [register, get?]
  induction entries with
  | nil => simp [insert, lookup_cons_ite]
  | cons p entries ih =>
      obtain ⟨i, d⟩ := p
      by_cases here : i = id <;> by_cases found : n = i <;>
        simp_all [insert, lookup_cons_ite]

/-- **Loading.**  What each number has is the entry of the last pair that spells it, and no
pair is faulty. -/
theorem get?_of_ofMembers {ms : List (String × Json)} {c : Catalog} (loaded : ofMembers ms = .ok c) :
    (∀ n e, c.get? n = some e ↔ LastEnters ms n e) ∧ ∀ pair ∈ ms, ∀ f, ¬ Faulty pair f := by
  -- from the back: the last pair is looked at first when it is asked which one entered last
  induction ms using List.reverseRecOn generalizing c with
  | nil =>
      cases loaded
      simp [LastEnters, empty, get?]
  | append_singleton ms pair ih =>
      rw [ofMembers, List.foldlM_append] at loaded
      obtain ⟨c₀, before, added⟩ := Except.bind_eq_ok loaded
      obtain ⟨kept, sound⟩ := ih before
      have added : addPair c₀ pair = .ok c := by simpa using added
      have whole : ∀ f, ¬ Faulty pair f := fun f faulty => by
        cases (addPair_of_faulty faulty c₀).symm.trans added
      refine ⟨fun n e => ?_, List.forall_mem_append.mpr ⟨sound, List.forall_mem_singleton.mpr whole⟩⟩
      obtain remark | ⟨m, d, enters⟩ | ⟨f, faulty⟩ := pair_cases pair
      · cases (addPair_of_isRemark remark c₀).symm.trans added
        rw [lastEnters_concat_of_silent (not_spells_of_isRemark remark n), kept]
      · cases (addPair_of_enters enters c₀).symm.trans added
        rw [get?_register]
        by_cases same : n = m
        · subst same
          rw [if_pos rfl, Option.some.injEq, lastEnters_concat]
          constructor
          · rintro rfl
            exact .inl enters
          · rintro (enters' | ⟨silent, -⟩)
            · exact Schema.Verdict.ok.inj (enters.read.symm.trans enters'.read)
            · exact absurd enters.spells silent
        · have silent : ¬ Spells pair n := fun spells => same (spells.unique enters.spells)
          rw [if_neg same, lastEnters_concat_of_silent silent, kept]
      · exact absurd faulty (whole f)

/-- Where no pair is faulty, every number that is spelled is entered last by some pair. -/
theorem exists_lastEnters {ms : List (String × Json)} {n : Int}
    (sound : ∀ pair ∈ ms, ∀ f, ¬ Faulty pair f) (spelled : ∃ pair ∈ ms, Spells pair n) :
    ∃ e, LastEnters ms n e := by
  induction ms using List.reverseRecOn with
  | nil =>
      obtain ⟨_, mem, -⟩ := spelled
      exact absurd mem List.not_mem_nil
  | append_singleton ms pair ih =>
      rw [List.forall_mem_append, List.forall_mem_singleton] at sound
      simp only [lastEnters_concat]
      by_cases here : Spells pair n
      · obtain remark | ⟨m, e, enters⟩ | ⟨f, faulty⟩ := pair_cases pair
        · exact absurd here (not_spells_of_isRemark remark n)
        · obtain rfl := here.unique enters.spells
          exact ⟨e, .inl enters⟩
        · exact absurd faulty (sound.2 f)
      · obtain ⟨earlier, mem, spells⟩ := spelled
        have before : earlier ∈ ms := (List.mem_append.mp mem).resolve_right fun last =>
          here (List.mem_singleton.mp last ▸ spells)
        obtain ⟨e, last⟩ := ih sound.1 ⟨earlier, before, spells⟩
        exact ⟨e, .inr ⟨here, last⟩⟩

theorem LastEnters.spelled {ms : List (String × Json)} {n : Int} {e : CardEffect}
    (last : LastEnters ms n e) : 0 < n ∧ ∃ pair ∈ ms, Spells pair n := by
  obtain ⟨before, pair, after, rfl, enters, -⟩ := last
  exact ⟨enters.positive, pair, by simp, enters.spells⟩

/-! ## Numbers -/

theorem mem_cardIds {c : Catalog} {n : Int} : n ∈ c.cardIds ↔ ∃ e, c.get? n = some e := by
  rw [cardIds, List.mem_mergeSort, get?, ← Option.isSome_iff_exists, List.lookup_isSome_iff,
    List.mem_map]
  exact exists_congr fun p => and_congr_right fun _ => by rw [beq_iff_eq, eq_comm]

theorem mem_byTrigger {c : Catalog} {t : Trigger} {n : Int} :
    n ∈ c.byTrigger t ↔ ∃ e, c.get? n = some e ∧ e.trigger = t := by
  rw [byTrigger, List.mem_filter, mem_cardIds]
  cases found : c.get? n with
  | none => simp
  | some e => simp

theorem Sound.ascending {c : Catalog} (sound : c.Sound) : c.cardIds.Pairwise (· < ·) := by
  have sorted : c.cardIds.Pairwise (· ≤ ·) := List.pairwise_mergeSort' (· ≤ ·) _
  have once : c.cardIds.Pairwise (· ≠ ·) := List.nodup_mergeSort.mpr sound.once
  exact sorted.imp₂ (fun _ _ le ne => lt_of_le_of_ne le ne) once

/-! ## Raw catalogs -/

/-- What a catalog keeps of the pairs it is loaded from. -/
structure Kept (ms : List (String × Json)) (c : Catalog) : Prop where
  ascending : c.cardIds.Pairwise (· < ·)
  positive : ∀ n ∈ c.cardIds, 0 < n
  numbers : ∀ n, n ∈ c.cardIds ↔ ∃ pair ∈ ms, Spells pair n
  found : ∀ n ∈ c.cardIds, ∃ e, c.get? n = some e
  last : ∀ n e, c.get? n = some e ↔ LastEnters ms n e
  triggered : ∀ t, (c.byTrigger t).Pairwise (· < ·)
  within : ∀ t, c.byTrigger t ⊆ c.cardIds
  parted : ∀ n ∈ c.cardIds, ∃! t, n ∈ c.byTrigger t

theorem kept_of_ofMembers {ms : List (String × Json)} {c : Catalog} (loaded : ofMembers ms = .ok c) :
    Kept ms c := by
  obtain ⟨last, sound⟩ := get?_of_ofMembers loaded
  have ascending := (sound_of_ofMembers loaded).ascending
  refine {
    ascending
    last
    positive := fun n mem => ?_
    numbers := fun n => ?_
    found := fun n => mem_cardIds.mp
    triggered := fun t => ascending.filter _
    within := fun _ => List.filter_subset_self _
    parted := fun n mem => ?_ }
  · obtain ⟨e, found⟩ := mem_cardIds.mp mem
    exact ((last n e).mp found).spelled.1
  · simp only [mem_cardIds, last]
    constructor
    · rintro ⟨e, entered⟩
      exact entered.spelled.2
    · exact exists_lastEnters sound
  · obtain ⟨e, found⟩ := mem_cardIds.mp mem
    refine ⟨e.trigger, mem_byTrigger.mpr ⟨e, found, rfl⟩, fun t acts => ?_⟩
    obtain ⟨d, same, rfl⟩ := mem_byTrigger.mp acts
    exact congrArg CardEffect.trigger (Option.some.inj (same.symm.trans found))

theorem ofMembers_concat (ms : List (String × Json)) (pair : String × Json) :
    ofMembers (ms ++ [pair]) = ofMembers ms >>= fun c => addPair c pair := by
  simp [ofMembers]

theorem ofMembers_eq_error_append {ms : List (String × Json)} {f : Failure}
    (failed : ofMembers ms = .error f) (after : List (String × Json)) :
    ofMembers (ms ++ after) = .error f := by
  rw [ofMembers] at failed ⊢
  rw [List.foldlM_append, failed]
  rfl

/-- Loading fails as its first faulty pair does. -/
theorem ofMembers_eq_error_iff_firstFaulty {ms : List (String × Json)} {f : Failure} :
    ofMembers ms = .error f ↔ FirstFaulty ms f := by
  constructor
  · intro failed
    obtain ⟨before, pair, after, c, rfl, ran, failed⟩ := foldlM_eq_error failed
    exact ⟨before, pair, after, rfl, (get?_of_ofMembers ran).2, faulty_of_addPair failed⟩
  · rintro ⟨before, pair, after, rfl, sound, faulty⟩
    rw [List.append_cons]
    refine ofMembers_eq_error_append ?_ after
    rw [ofMembers_concat]
    cases ran : ofMembers before with
    | ok c => exact addPair_of_faulty faulty c
    | error g =>
        -- it would have failed in one of the pairs before
        obtain ⟨_, earlier, _, _, rfl, -, failed⟩ := foldlM_eq_error ran
        exact absurd (faulty_of_addPair failed) (sound earlier (by simp) g)

end Catalog

namespace Loose.Catalog

theorem setPair_str (ms : List (String × Json)) (p : String × Json) :
    setPair (ms.map (Prod.map .str id)) (p.map .str id)
      = (Json.set ms p.1 p.2).map (Prod.map .str id) := by
  obtain ⟨key, w⟩ := p
  induction ms with
  | nil => rfl
  | cons q ms ih =>
      obtain ⟨k, v⟩ := q
      by_cases here : k = key
      · simp [setPair, Json.set, here]
      · simpa [setPair, Json.set, here] using ih

/-- Pairs with texts for keys are loaded from the dictionary that they make. -/
theorem ofPairs_str (pairs : List (String × Json)) :
    ofPairs (pairs.map (Prod.map .str id)) = LaneDuel.Catalog.ofMembers (Json.members pairs) := by
  have keyed : (pairs.map (Prod.map Json.str id)).all (fun p => isKey p.1) = true := by simp
  have dictionary : (pairs.map (Prod.map Json.str id)).foldl setPair []
      = (Json.members pairs).map (Prod.map .str id) := by
    rw [List.foldl_map, Json.members]
    change pairs.foldl _ (List.map (Prod.map Json.str id) []) = _
    exact List.foldl_hom _ setPair_str
  rw [ofPairs, if_pos keyed, dictionary, List.foldlM_map]
  rfl

end Loose.Catalog

namespace Catalog

/-- **Raw catalogs.**  In the dictionary of some pairs each key has its first position and its
last value, and what is loaded from it is what is loaded from the pairs.  A catalog that is
loaded keeps, for each number that a key spells, the entry of the last pair that spells it,
lists the numbers in ascending order and parts them by when they act.  Loading fails exactly
as the first faulty pair does, and nothing that is added later changes how. -/
theorem loads_last_spelled (pairs : List (String × Json)) :
    (Json.members pairs).map Prod.fst = (pairs.map Prod.fst).eraseDups ∧
    (∀ key, Json.find? (Json.members pairs) key = pairs.reverse.lookup key) ∧
    Loose.Catalog.ofPairs (pairs.map (Prod.map .str id)) = ofMembers (Json.members pairs) ∧
    (∀ c, ofMembers (Json.members pairs) = .ok c → Kept (Json.members pairs) c) ∧
    ∀ f, (ofMembers (Json.members pairs) = .error f ↔ FirstFaulty (Json.members pairs) f) ∧
      ∀ after, ofMembers (Json.members pairs) = .error f →
        ofMembers (Json.members pairs ++ after) = .error f :=
  ⟨Json.keys_members pairs, Json.find?_members pairs, Loose.Catalog.ofPairs_str pairs,
    fun _ => kept_of_ofMembers,
    fun _ => ⟨ofMembers_eq_error_iff_firstFaulty, fun after failed =>
      ofMembers_eq_error_append failed after⟩⟩

end Catalog

namespace Example

/-- A remark, three spellings of one number, one of them given twice, and another number. -/
def respelled : List (String × Json) := [
  ("12", teleporter .null), ("_note", .str "draft"), ("7", teleporter .null),
  (" 0_7", teleporter (.bool true)), ("7", teleporter (.str "far"))]

/-- An entry, a key that is not positive and one that is no number. -/
def misnumbered : List (String × Json) := [("7", teleporter .null), ("-0", .null), ("x", .null)]

/-- The last of the spellings that stand in the dictionary has the number, and of two faulty
pairs the first one fails. -/
theorem respelled_loads :
    (Json.members respelled).map Prod.fst = ["12", "_note", "7", " 0_7"] ∧
    (∃ c, Catalog.ofMembers (Json.members respelled) = .ok c ∧
      Catalog.Kept (Json.members respelled) c ∧ c.numbers = [12, 7] ∧
      c.get? 7 = some (teleporting [("x", .bool true), ("y", .null)])) ∧
    Catalog.FirstFaulty (Json.members misnumbered)
      (.game (.catalog "invalid card id: '-0'" (some 0) none)) := by
  obtain ⟨keys, -, -, kept, -⟩ := Catalog.loads_last_spelled respelled
  obtain ⟨-, -, -, -, fails⟩ := Catalog.loads_last_spelled misnumbered
  have loaded : Catalog.ofMembers (Json.members respelled)
      = .ok ⟨[(12, teleporting [("x", .null), ("y", .null)]),
          (7, teleporting [("x", .bool true), ("y", .null)])]⟩ := rfl
  exact ⟨keys.trans rfl, ⟨_, loaded, kept _ loaded, rfl, rfl⟩, (fails _).1.mp rfl⟩

end Example

end LaneDuel
