/-
# LaneDuel.Proofs.Loose.Parallel -- two loose runs side by side

A loose step may be begun on two runs that differ: in cards that nothing leads to, and in
what was told before.  A `Pairing` says which names of cards may be met and how the two logs
are related; `Run.Beside` are the runs it pairs, and `Act.Steady x Q` says that the step `x`
ends alike on both, with an answer of which `Q` holds, or in the same failure, and leaves
paired runs.

Every operation that effects are made of is steady if it only meets names that the pairing
knows; `Steady.bind` puts two steps in a row and `Steady.each` goes through a list, so each
effect is a chain of these laws.
-/
import Mathlib.Data.List.Find
import LaneDuel.Proofs.Loose.Does
import LaneDuel.Proofs.Table.Locate

namespace LaneDuel

set_option autoImplicit false

variable {ρ : Type}

/-! ## Tables of known names -/

/-- Every card of a player has a name that is known. -/
structure Player.Within {ν α : Type} (known : α → Prop) (p : Player ν α) : Prop where
  battlefield : ∀ o, some o ∈ p.battlefield → known o
  buildings : ∀ o, some o ∈ p.buildings → known o
  hand : ∀ o ∈ p.hand, known o

/-- Every card of a table has a name that is known. -/
structure Table.Within {ν σ α : Type} (known : α → Prop) (t : Table ν σ α) : Prop where
  player : ∀ s, (t.player s).Within known
  deck : ∀ o ∈ t.deck, known o
  miracleDeck : ∀ o ∈ t.miracleDeck, known o
  discardPile : ∀ o ∈ t.discardPile, known o

namespace Player.Within

variable {ν α : Type} {known : α → Prop} {p : Player ν α}

theorem mem_cards (h : p.Within known) {o : α} (held : o ∈ p.cards) : known o := by
  obtain lane | lane | held := Player.mem_cards.mp held
  · exact h.battlefield o lane
  · exact h.buildings o lane
  · exact h.hand o held

theorem zone (h : p.Within known) {z : Zone} {o : α} (lies : some o ∈ p.zone z) : known o :=
  h.mem_cards (Player.mem_cards_of_zone lies)

theorem fieldCards (h : p.Within known) : ∀ o ∈ p.fieldCards, known o :=
  fun o there => h.battlefield o (mem_taken.mp there)

end Player.Within

namespace Table.Within

variable {ν σ α : Type} {known : α → Prop} {t : Table ν σ α}

theorem mem_cards (h : t.Within known) {o : α} (lies : o ∈ t.cards) : known o := by
  obtain ⟨s, held⟩ | ⟨p, piled⟩ := Table.mem_cards.mp lies
  · exact (h.player s).mem_cards held
  · cases p with
    | deck => exact h.deck o piled
    | miracleDeck => exact h.miracleDeck o piled
    | discardPile => exact h.discardPile o piled

theorem of_cards (h : ∀ o ∈ t.cards, known o) : t.Within known where
  player s := {
    battlefield := fun o lane =>
      h o (mem_cards_of_player (Player.mem_cards.mpr (.inl lane)) (s := s))
    buildings := fun o lane =>
      h o (mem_cards_of_player (Player.mem_cards.mpr (.inr (.inl lane))) (s := s))
    hand := fun o held =>
      h o (mem_cards_of_player (Player.mem_cards.mpr (.inr (.inr held))) (s := s)) }
  deck o lies := h o (Table.mem_cards.mpr (.inr ⟨.deck, lies⟩))
  miracleDeck o lies := h o (Table.mem_cards.mpr (.inr ⟨.miracleDeck, lies⟩))
  discardPile o lies := h o (Table.mem_cards.mpr (.inr ⟨.discardPile, lies⟩))

theorem modifyPlayer (h : t.Within known) (s : Side) {f : Player ν α → Player ν α}
    (keeps : (f (t.player s)).Within known) : (t.modifyPlayer s f).Within known where
  player s' := by
    obtain rfl | rfl := Side.eq_or_eq_opponent s s'
    · rw [player_modifyPlayer_self]
      exact keeps
    · rw [player_modifyPlayer_opponent]
      exact h.player s.opponent
  deck := by rw [modifyPlayer_deck]; exact h.deck
  miracleDeck := by rw [modifyPlayer_miracleDeck]; exact h.miracleDeck
  discardPile := by rw [modifyPlayer_discardPile]; exact h.discardPile

theorem fieldCards (h : t.Within known) (sides : List Side) :
    ∀ o ∈ t.fieldCards sides, known o := by
  intro o there
  obtain ⟨s, -, there⟩ := List.mem_flatMap.mp there
  exact (h.player s).fieldCards o there

theorem cardAt (h : t.Within known) {slot : Slot} {o : α} (there : t.cardAt slot = some o) :
    known o :=
  h.mem_cards (mem_cards_of_cardAt there)

end Table.Within

theorem Table.locate_congr {ν σ α : Type} {t : Table ν σ α} {hit hit' : α → Bool}
    {zones : List Zone} (same : ∀ c ∈ t.cards, hit c = hit' c) :
    t.locate hit zones = t.locate hit' zones := by
  refine congrArg (Option.map Prod.fst) (List.find?_congr fun (slot, c) taken => ?_)
  exact same c (mem_cards_of_cardAt (mem_occupied.mp taken).2)

/-! ## Reports -/

/-- The event reports a call that could not be carried out. -/
def Event.isReport : Event → Bool
  | .notice (.unknownAtom _) => true
  | _ => false

namespace Loose

/-! ## Pairs of runs -/

/-- What two runs that go side by side have in common: the names of cards that are known to
both, and how their logs are related.  What both tell keeps the logs related; reports, which
only the engine makes, need not. -/
structure Pairing where
  known : Origin → Prop
  alike : List Event → List Event → Prop
  tell : ∀ {log log'} e, e.isReport = false → alike log log' → alike (log ++ [e]) (log' ++ [e])

/-- All of some names are known. -/
def Pairing.All (pair : Pairing) (os : List Origin) : Prop := ∀ o ∈ os, pair.known o

theorem Pairing.all_nil (pair : Pairing) : pair.All [] := nofun

/-- Two runs go side by side. -/
structure Run.Beside (pair : Pairing) (r r' : Run ρ) : Prop where
  table : r.table = r'.table
  within : r.table.Within pair.known
  cards : ∀ o, pair.known o → r.cards o = r'.cards o
  source : r.source = r'.source
  log : pair.alike r.log r'.log

/-- The acting card and the target of a scene have names that are known. -/
structure Pairing.Binds (pair : Pairing) (b : Scene) : Prop where
  actor : ∀ o, b.actor = some o → pair.known o
  target : ∀ o, b.target = some o → pair.known o

theorem Run.Beside.snapshot {pair : Pairing} {r r' : Run ρ} (h : r.Beside pair r') :
    r.snapshot = r'.snapshot := by
  rw [Run.snapshot, Run.snapshot, ← h.table]
  exact Table.map_congr fun o lies => h.cards o (h.within.mem_cards lies)

namespace Act

variable {α β : Type}

/-- A step ends alike on paired runs, and leaves paired runs. -/
def Steady (pair : Pairing) (x : Act ρ α) (Q : α → Prop) : Prop :=
  ∀ r r', r.Beside pair r' →
    (x.run r).1 = (x.run r').1 ∧ (x.run r).2.Beside pair (x.run r').2 ∧
      ∀ a, (x.run r).1 = .ok a → Q a

/-- Nothing is said of the answer. -/
def Any (_ : α) : Prop := True

namespace Steady

variable {pair : Pairing} {Q : α → Prop} {Q' : β → Prop}

/-! ## Steps in a row -/

theorem pure {a : α} (h : Q a) : Steady pair (Pure.pure a : Act ρ α) Q :=
  fun _ _ beside => ⟨rfl, beside, fun _ same => Except.ok.inj same ▸ h⟩

theorem throw (f : Failure) : Steady pair (MonadExcept.throw f : Act ρ α) Q :=
  fun _ _ beside => ⟨rfl, beside, fun _ same => by cases same⟩

/-- Nothing comes after a failure. -/
theorem stop (f : Failure) (next : α → Act ρ β) :
    Steady pair ((MonadExcept.throw f : Act ρ α) >>= next) Q' :=
  fun _ _ beside => ⟨rfl, beside, fun _ same => by cases same⟩

theorem bind {x : Act ρ α} {f : α → Act ρ β} (first : Steady pair x Q)
    (next : ∀ a, Q a → Steady pair (f a) Q') : Steady pair (x >>= f) Q' := by
  intro r r' beside
  obtain ⟨same, left, holds⟩ := first r r' beside
  rw [run_bind, run_bind]
  rcases ran : x.run r with ⟨v, s⟩
  rcases ran' : x.run r' with ⟨v', s'⟩
  rw [ran, ran'] at same left
  cases same
  cases v with
  | error e => exact ⟨rfl, left, fun _ same => by cases same⟩
  | ok a => exact next a (holds a (by rw [ran])) s s' left

theorem any {x : Act ρ α} (h : Steady pair x Q) : Steady pair x Any := by
  intro r r' beside
  obtain ⟨same, left, -⟩ := h r r' beside
  exact ⟨same, left, fun _ _ => trivial⟩

/-- After a step of whose answer nothing is said. -/
theorem andThen {x : Act ρ α} {f : α → Act ρ β} (first : Steady pair x Any)
    (next : ∀ a, Steady pair (f a) Q') : Steady pair (x >>= f) Q' :=
  first.bind fun a _ => next a

theorem branch {c : Prop} [Decidable c] {x y : Act ρ α} (yes : Steady pair x Q)
    (no : Steady pair y Q) : Steady pair (if c then x else y) Q := by
  split
  · exact yes
  · exact no

theorem ofExcept (v : Except Failure α) : Steady pair (Act.ofExcept v : Act ρ α) Any := by
  cases v with
  | ok a => exact pure trivial
  | error f => exact throw f

/-- Going through a list. -/
theorem each {as : List α} {f : α → PUnit → Act ρ (ForInStep PUnit)}
    (body : ∀ a ∈ as, Steady pair (f a ⟨⟩) Any) : Steady pair (forIn as PUnit.unit f) Any := by
  induction as with
  | nil => exact pure trivial
  | cons a as ih =>
      rw [List.forIn_cons]
      refine (body a List.mem_cons_self).andThen fun step => ?_
      cases step with
      | done => exact pure trivial
      | yield => exact ih fun x mem => body x (List.mem_cons_of_mem a mem)

theorem mapM {P : β → Prop} {as : List α} {f : α → Act ρ β}
    (one : ∀ a ∈ as, Steady pair (f a) P) :
    Steady pair (as.mapM f) fun bs => ∀ b ∈ bs, P b := by
  induction as with
  | nil => exact pure fun b mem => absurd mem List.not_mem_nil
  | cons a as ih =>
      rw [List.mapM_cons]
      refine (one a List.mem_cons_self).bind fun b first => ?_
      refine (ih fun x mem => one x (List.mem_cons_of_mem a mem)).bind fun bs rest => ?_
      exact pure (List.forall_mem_cons.mpr ⟨first, rest⟩)

/-! ## Operations -/

/-- What is read of a run is read of both. -/
theorem get {k : Run ρ → Act ρ α}
    (same : ∀ r r' : Run ρ, r.table = r'.table → k r = k r')
    (next : ∀ r : Run ρ, r.table.Within pair.known → Steady pair (k r) Q) :
    Steady pair (MonadState.get >>= k) Q := by
  intro r r' beside
  have opened : ∀ r : Run ρ, (MonadState.get >>= k : Act ρ α).run r = (k r).run r := fun _ => rfl
  rw [opened, opened, ← same r r' beside.table]
  exact next r beside.within r r' beside

theorem look {o : Origin} (known : pair.known o) : Steady pair (Act.look o : Act ρ Card) Any :=
  fun _ _ beside => ⟨congrArg Except.ok (beside.cards o known), beside, fun _ _ => trivial⟩

theorem put (o : Origin) (c : Card) : Steady pair (Act.put o c : Act ρ Unit) Any := by
  intro r r' beside
  refine ⟨rfl, ⟨beside.table, beside.within, fun x known => ?_, beside.source, beside.log⟩,
    fun _ _ => trivial⟩
  exact congrArg (fun d => if x = o then c else d) (beside.cards x known)

theorem player (s : Side) :
    Steady pair (Act.player s : Act ρ _) fun p => p.Within pair.known := by
  intro r r' beside
  have read : ∀ r : Run ρ,
      (Act.player s : Act ρ _).run r = (.ok (r.table.player s), r) := fun _ => rfl
  rw [read, read, ← beside.table]
  refine ⟨rfl, beside, fun p same => ?_⟩
  cases same
  exact beside.within.player s

theorem modifyTable {f : Table Json Signals Origin → Table Json Signals Origin}
    (keeps : ∀ t, t.Within pair.known → (f t).Within pair.known) :
    Steady pair (Act.modifyTable f : Act ρ Unit) Any := fun _ _ beside =>
  ⟨rfl, ⟨congrArg f beside.table, keeps _ beside.within, beside.cards, beside.source, beside.log⟩,
    fun _ _ => trivial⟩

theorem modifyPlayer (s : Side)
    {f : LaneDuel.Player Json Origin → LaneDuel.Player Json Origin}
    (keeps : ∀ p, p.Within pair.known → (f p).Within pair.known) :
    Steady pair (Act.modifyPlayer s f : Act ρ Unit) Any :=
  modifyTable fun _ within => within.modifyPlayer s (keeps _ (within.player s))

theorem draw {f : ρ → α × ρ} (h : ∀ source, Q (f source).1) :
    Steady pair (Act.draw f : Act ρ α) Q := by
  intro r r' beside
  have drawn : ∀ r : Run ρ, (Act.draw f : Act ρ α).run r
      = (.ok (f r.source).1, { r with source := (f r.source).2 }) := fun _ => rfl
  rw [drawn, drawn, ← beside.source]
  refine ⟨rfl, ⟨beside.table, beside.within, beside.cards, rfl, beside.log⟩, fun a same => ?_⟩
  cases same
  exact h r.source

theorem field (s : Side) : Steady pair (Act.field s : Act ρ _) pair.All :=
  (player s).bind fun _ within => pure within.fieldCards

theorem locate (id : Json) : Steady pair (Act.locate id : Act ρ _) Any := by
  intro r r' beside
  let hit := fun (r : Run ρ) o => same (r.cards o).instanceId id
  have searched : ∀ r : Run ρ,
      (Act.locate id).run r = (.ok (r.table.locate (hit r) [.battlefield]), r) := fun _ => rfl
  have found : r.table.locate (hit r) [.battlefield] = r.table.locate (hit r') [.battlefield] :=
    Table.locate_congr fun o lies => by
      simp only [hit, beside.cards o (beside.within.mem_cards lies)]
  rw [searched, searched, found, beside.table]
  exact ⟨rfl, beside, fun _ _ => trivial⟩

/-! ## Asking cards -/

section Tests

variable {test : Card → Except Failure Bool}

theorem ask {o : Origin} (known : pair.known o) :
    Steady pair (do Act.ofExcept (test (← Act.look o)) : Act ρ Bool) Any :=
  (look known).andThen fun _ => ofExcept _

theorem anyCard {os : List Origin} (known : pair.All os) :
    Steady pair (Act.anyCard os test : Act ρ Bool) Any := by
  induction os with
  | nil => exact pure trivial
  | cons o os ih =>
      obtain ⟨first, rest⟩ := List.forall_mem_cons.mp known
      rw [Act.anyCard]
      exact (look first).andThen fun _ => (ofExcept _).andThen fun _ =>
        branch (pure trivial) (ih rest)

theorem filterAux {os acc : List Origin} (known : pair.All os) (gathered : pair.All acc) :
    Steady pair
      (os.filterAuxM (fun o => do Act.ofExcept (test (← Act.look o))) acc : Act ρ (List Origin))
      pair.All := by
  induction os generalizing acc with
  | nil => exact pure gathered
  | cons o os ih =>
      obtain ⟨first, rest⟩ := List.forall_mem_cons.mp known
      rw [List.filterAuxM]
      refine (ask first).andThen fun hit => ih rest ?_
      cases hit with
      | true => exact List.forall_mem_cons.mpr ⟨first, gathered⟩
      | false => exact gathered

theorem keep {os : List Origin} (known : pair.All os) :
    Steady pair (Act.keep os test : Act ρ (List Origin)) pair.All :=
  (filterAux known pair.all_nil).bind fun _ kept =>
    pure fun o mem => kept o (List.mem_reverse.mp mem)

end Tests

section Scene

variable {b : Scene}

theorem actor (bound : pair.Binds b) : Steady pair (Act.actor b : Act ρ Origin) pair.known := by
  rw [Act.actor]
  cases acting : b.actor with
  | none => exact throw _
  | some o => exact pure (bound.actor o acting)

theorem tellWith {e : Event}
    (keeps : ∀ log log', pair.alike log log' → pair.alike (log ++ [e]) (log' ++ [e])) :
    Steady pair (Act.tell b e : Act ρ Unit) Any := by
  rw [Act.tell, Act.actor]
  cases b.actor with
  | none => exact stop _ _
  | some o =>
      refine (pure trivial).andThen fun _ => ?_
      exact fun _ _ beside => ⟨rfl, ⟨beside.table, beside.within, beside.cards, beside.source,
        keeps _ _ beside.log⟩, fun _ _ => trivial⟩

theorem tell {e : Event} (own : e.isReport = false) :
    Steady pair (Act.tell b e : Act ρ Unit) Any :=
  tellWith fun _ _ => pair.tell e own

theorem notice (n : Notice) (own : (Event.notice n).isReport = false) :
    Steady pair (Act.notice b n : Act ρ Unit) Any := by
  rw [Act.notice]
  split
  · exact tell own
  · exact throw _

/-- One of two notices. -/
theorem either {c : Prop} [Decidable c] (n m : Notice) (own : (Event.notice n).isReport = false)
    (own' : (Event.notice m).isReport = false) :
    Steady pair (Act.notice b (if c then n else m) : Act ρ Unit) Any := by
  split
  · exact notice n own
  · exact notice m own'

theorem trace (t : Trace) : Steady pair (Act.trace b t : Act ρ Unit) Any := by
  rw [Act.trace]
  split
  · exact pure trivial
  · exact tell rfl

end Scene

end Steady

end Act

end Loose

end LaneDuel
