/-
# LaneDuel.Proofs.Engine.FirstAttack -- a card makes its first attack once

The mark of the first attack is written to the card on the table, no effect takes it back,
and a later play finds it again by the card's instance id wherever the card has gone.

Every entry of a first attack uses up the one that the acting card had left, and no other
entry does (`Atom.perform_firstAttacks`).  A chain inherits this, so over a series of plays
the entries of a card's own first attacks and what is left of them never add up to more
than what was left at the start (`Play.series_firstAttacks`): one, or none where the mark
was there from the start.
-/
import LaneDuel.Proofs.Engine.Frame

namespace LaneDuel

set_option autoImplicit false

/-- The keys of the entries of a first attack, without and with a target. -/
def firstAttackKeys : List String := ["effect.first_attack", "effect.first_attack_freeze"]

/-- How many cards with an instance id have their first attack left. -/
def State.firstAttacksLeft (id : String) (s : State) : Nat :=
  s.cards.countP fun c => c.instanceId == id && !c.firstActionUsed

/-! ## One atom -/

namespace Run

variable {ρ : Type}

/-- Whether a card has its first attack left, as a number. -/
def firstAttackLeft (r : Run ρ) (o : Origin) : Nat :=
  if (r.cards o).firstActionUsed then 0 else 1

end Run

theorem AtomKind.keys_apart_firstAttack {k : AtomKind} (other : k ≠ .freezeOnFirstAttack) :
    ∀ key ∈ k.keys, key ∉ firstAttackKeys := by
  revert other
  cases k <;> decide

/-- The entries of a first attack: one if it was left, and none otherwise. -/
theorem Effect.firstAttack_tally {ρ : Type} (turns : Int) (b : Binding) (r : Run ρ) :
    (firstAttack turns b r).tally firstAttackKeys
      = r.tally firstAttackKeys + r.firstAttackLeft b.actor := by
  unfold firstAttack Run.firstAttackLeft
  simp only
  split
  · exact Run.tally_tell _ _ _
  · split
    · exact Run.tally_tell _ _ _
    · exact Run.tally_tell _ _ _

/-- **A first attack is told of exactly when it is used up.** -/
theorem Atom.perform_firstAttacks {ρ : Type} [RandomSource ρ] (b : Binding) (r : Run ρ)
    (a : Atom) :
    (a.perform b r).tally firstAttackKeys + (a.perform b r).firstAttackLeft b.actor
      = r.tally firstAttackKeys + r.firstAttackLeft b.actor := by
  by_cases first : a.kind = .freezeOnFirstAttack
  · cases a with
    | freezeOnFirstAttack turns =>
        have told : ((freezeOnFirstAttack turns).perform b r).tally firstAttackKeys
            = r.tally firstAttackKeys + r.firstAttackLeft b.actor :=
          Effect.firstAttack_tally turns b r
        have used : (((freezeOnFirstAttack turns).perform b r).cards b.actor).firstActionUsed
            = true := by
          rw [perform_firstActionUsed]
          simp [first]
        have spent : ((freezeOnFirstAttack turns).perform b r).firstAttackLeft b.actor = 0 :=
          if_pos used
        rw [told, spent, Nat.add_zero]
    | _ => cases first
  · have told : (a.perform b r).tally firstAttackKeys = r.tally firstAttackKeys :=
      (a.perform_tells b r).tally_eq (by decide) (AtomKind.keys_apart_firstAttack first)
    have kept : ((a.perform b r).cards b.actor).firstActionUsed
        = (r.cards b.actor).firstActionUsed := by
      rw [perform_firstActionUsed]
      simp [first]
    rw [told, Run.firstAttackLeft, kept, Run.firstAttackLeft]

/-! ## Cards of a state -/

namespace Run

variable {ρ : Type}

theorem firstAttacksLeft_snapshot (r : Run ρ) (id : String) :
    State.firstAttacksLeft id r.snapshot = r.table.cards.countP fun o =>
      (r.cards o).instanceId == id && !(r.cards o).firstActionUsed := by
  rw [State.firstAttacksLeft, snapshot, Table.cards_map, List.countP_map]
  rfl

/-- Where ids are distinct, what a card has left is what its id has left. -/
theorem Distinct.firstAttacksLeft_eq {r : Run ρ} (distinct : r.Distinct) {o : Origin}
    (onTable : o ∈ r.table.cards) :
    State.firstAttacksLeft (r.cards o).instanceId r.snapshot = r.firstAttackLeft o := by
  have alone : ∀ x ∈ r.table.cards,
      ((r.cards x).instanceId == (r.cards o).instanceId && !(r.cards x).firstActionUsed) = true ↔
        (x == o && !(r.cards o).firstActionUsed) = true := by
    intro x member
    simp only [Bool.and_eq_true, beq_iff_eq]
    constructor
    · rintro ⟨same, left⟩
      have one : x = o := distinct.eq_of_id member onTable same
      exact ⟨one, one ▸ left⟩
    · rintro ⟨rfl, left⟩
      exact ⟨rfl, left⟩
  rw [firstAttacksLeft_snapshot, List.countP_congr alone, firstAttackLeft]
  cases (r.cards o).firstActionUsed with
  | true => simp
  | false =>
      have once : r.table.cards.count o = 1 := List.count_eq_one_of_mem distinct.nodup onTable
      simpa [List.count] using once

/-- Where the mark is never taken back, no id gets a first attack. -/
theorem Conserves.firstAttacksLeft_le {r r' : Run ρ} (conserved : r.Conserves r')
    (kept : ∀ o, (r.cards o).firstActionUsed = true → (r'.cards o).firstActionUsed = true)
    (id : String) :
    State.firstAttacksLeft id r'.snapshot ≤ State.firstAttacksLeft id r.snapshot := by
  rw [firstAttacksLeft_snapshot, firstAttacksLeft_snapshot, conserved.table.cards.countP_eq]
  refine List.countP_mono_left fun o _ left => ?_
  rw [conserved.instanceId] at left
  simp only [Bool.and_eq_true, Bool.not_eq_true'] at left ⊢
  refine ⟨left.1, Bool.eq_false_iff.mpr fun used => ?_⟩
  rw [kept o used] at left
  exact absurd left.2 (by decide)

end Run

namespace State

/-- Distinct ids have at most one first attack left each. -/
theorem firstAttacksLeft_le_one {s : State} (distinct : s.instanceIds.Nodup) (id : String) :
    s.firstAttacksLeft id ≤ 1 := by
  have once : s.cards.countP (fun c => c.instanceId == id) ≤ 1 := by
    have count := List.nodup_iff_count_le_one.mp distinct id
    rwa [instanceIds, List.count, List.countP_map] at count
  refine Nat.le_trans (List.countP_mono_left fun c _ left => ?_) once
  rw [Bool.and_eq_true] at left
  exact left.1

/-- A card that has made its first attack has none left. -/
theorem firstAttacksLeft_of_used {s : State} (distinct : s.instanceIds.Nodup) {c : Card}
    (member : c ∈ s.cards) (used : c.firstActionUsed = true) :
    s.firstAttacksLeft c.instanceId = 0 := by
  refine List.countP_eq_zero.mpr fun d member' left => ?_
  simp only [Bool.and_eq_true, beq_iff_eq, Bool.not_eq_true'] at left
  obtain ⟨same, unused⟩ := left
  rw [List.inj_on_of_nodup_map distinct member' member same, used] at unused
  cases unused

end State

/-! ## Plays -/

/-- A card with an instance id lies on a battlefield, in a hand or in a building slot. -/
def State.OnBoard (id : String) (s : State) : Prop :=
  ∃ slot c, s.cardAt slot = some c ∧ c.instanceId = id

namespace Engine

variable {ρ : Type}

/-- A card that is on the board is found there, so the card that acts is on the table. -/
theorem actor_mem_cards {s : State} {inv : Invocation} (onBoard : s.OnBoard inv.card.instanceId)
    (source : ρ) : (bind s inv).actor ∈ (begin s inv source).table.cards := by
  obtain ⟨slot, c, there, same⟩ := onBoard
  change bindActor s inv.card ∈ _
  rw [bindActor_eq s inv inv.card source]
  cases found : (begin s inv source).findById inv.card.instanceId actorZones with
  | some o => exact (Run.findById_eq_some found).2
  | none =>
      rw [begin, Run.findById_enter, Option.map_eq_none_iff] at found
      have searched : slot.zone ∈ actorZones := by
        cases slot.zone <;> decide
      have missed := Table.locate_eq_none_iff.mp found slot c searched there
      rw [same, beq_self_eq_true] at missed
      cases missed

variable [RandomSource ρ]

theorem runCalls_firstAttacks (library : Library) (cardId : Int) (b : Binding) (index : Nat)
    (calls : List Call) (r : Run ρ) :
    let r' := runCalls library cardId b index calls r
    r'.tally firstAttackKeys + r'.firstAttackLeft b.actor
      = r.tally firstAttackKeys + r.firstAttackLeft b.actor := by
  refine runCalls_invariant (P := fun r' => r'.tally firstAttackKeys + r'.firstAttackLeft b.actor
    = r.tally firstAttackKeys + r.firstAttackLeft b.actor) ?_ ?_ ?_ index calls rfl
  · intro r' name h
    rw [Run.tally_tell]
    exact h
  · intro r' index name h
    rw [Run.tally_tell]
    exact h
  · intro r' a h
    exact (a.perform_firstAttacks b r').trans h

section Lawful

variable [LawfulRandomSource ρ]

/-- A play gives no id a first attack. -/
theorem resolve_firstAttacksLeft_le (e : Engine) (cardId : Int) (inv : Invocation) {s : State}
    (distinct : s.instanceIds.Nodup) (source : ρ) (id : String) :
    State.firstAttacksLeft id (e.resolve cardId inv s source).resolution.state
      ≤ State.firstAttacksLeft id s := by
  obtain ⟨status, events, -, left⟩ | ⟨entry, -, ended⟩ := e.resolve_cases cardId inv s source
  · rw [left]
    exact Nat.le_refl _
  · rw [ended]
    have chained := (chain_conserves e.library cardId inv distinct source
      entry.effects).firstAttacksLeft_le
        (fun o => (runCalls_marks e.library cardId (bind s inv) 0 entry.effects _ o).2) id
    rw [begin, Run.snapshot_enter] at chained
    exact chained

/-- The entries of a play's own first attack use up what its card had left of it. -/
theorem resolve_firstAttacks (e : Engine) (cardId : Int) (inv : Invocation) {s : State}
    (distinct : s.instanceIds.Nodup) (source : ρ) (onBoard : s.OnBoard inv.card.instanceId) :
    let resolution := (e.resolve cardId inv s source).resolution
    resolution.events.countP (Event.isKeyed firstAttackKeys)
        + State.firstAttacksLeft inv.card.instanceId resolution.state
      = State.firstAttacksLeft inv.card.instanceId s := by
  cases stops : stop? e.catalog cardId inv s with
  | some stop =>
      rw [resolve_of_stop? stops source]
      have quiet : (stop.2.map Event.notice).countP (Event.isKeyed firstAttackKeys) = 0 := by
        rw [List.countP_eq_zero]
        intro event told
        obtain ⟨n, said, rfl⟩ := List.mem_map.mp told
        have own := key_of_stop? stops n said
        simp only [List.mem_cons, List.not_mem_nil, or_false] at own
        rcases own with key | key | key
        · simp [Event.isKeyed, Event.key, key, firstAttackKeys]
        · simp [Event.isKeyed, Event.key, key, firstAttackKeys]
        · simp [Event.isKeyed, Event.key, key, firstAttackKeys]
      simp only [leave, quiet, Nat.zero_add]
  | none =>
      obtain ⟨entry, -, ended⟩ := resolve_of_go stops source
      rw [ended]
      have begun : (begin s inv source).Distinct := Run.distinct_enter distinct _ _ _
      have conserved := chain_conserves e.library cardId inv distinct source entry.effects
      have onTable := actor_mem_cards onBoard source
      have before := begun.firstAttacksLeft_eq onTable
      have after := (conserved.distinct begun).firstAttacksLeft_eq
        ((conserved.mem_cards_iff _).mpr onTable)
      have used := runCalls_firstAttacks e.library cardId (bind s inv) 0 entry.effects
        (begin s inv source)
      rw [conserved.instanceId, actor_instanceId] at after
      have entered : (begin s inv source).snapshot = s := Run.snapshot_enter s _ _ _
      rw [actor_instanceId, entered] at before
      -- settling touches no card, and nothing has been told when the chain begins
      change _ + State.firstAttacksLeft _ (chain e.library cardId inv s source
        entry.effects).snapshot = _
      rw [after, before]
      exact used.trans (Nat.zero_add _)

end Lawful

end Engine

/-! ## Series of plays -/

namespace Play

variable {ρ : Type} [RandomSource ρ]

/-- Whenever the card with an instance id acts, it is on the board. -/
def Present (id : String) : List (Play ρ) → State → Prop
  | [], _ => True
  | p :: plays, s =>
    (p.invocation.card.instanceId = id → s.OnBoard id) ∧ Present id plays (next s p)

/-- What the plays of the card with an instance id tell, in a series of plays. -/
def toldBy (id : String) : List (Play ρ) → State → List Event
  | [], _ => []
  | p :: plays, s =>
    (if p.invocation.card.instanceId = id then
      (p.engine.resolve p.cardId p.invocation s p.source).resolution.events
    else []) ++ toldBy id plays (next s p)

variable [LawfulRandomSource ρ]

/-- Over any series of plays, the first attacks told of and those left never exceed those
that were left at the start. -/
theorem series_firstAttacks (id : String) (plays : List (Play ρ)) {s : State}
    (distinct : s.instanceIds.Nodup) (present : Present id plays s) :
    (toldBy id plays s).countP (Event.isKeyed firstAttackKeys)
        + State.firstAttacksLeft id (series plays s)
      ≤ State.firstAttacksLeft id s := by
  induction plays generalizing s with
  | nil => exact Nat.le_of_eq (Nat.zero_add _)
  | cons p plays ih =>
      obtain ⟨onBoard, later⟩ := present
      have conserved : State.Conserved s (next s p) :=
        p.engine.resolve_conserves p.cardId p.invocation distinct p.source
      have rest := ih conserved.once later
      rw [toldBy, List.countP_append]
      by_cases acts : p.invocation.card.instanceId = id
      · have own : (p.engine.resolve p.cardId p.invocation s p.source).resolution.events.countP
            (Event.isKeyed firstAttackKeys) + State.firstAttacksLeft id (next s p)
              = State.firstAttacksLeft id s := by
          rw [← acts]
          exact p.engine.resolve_firstAttacks p.cardId p.invocation distinct p.source
            (acts ▸ onBoard acts)
        rw [if_pos acts]
        change _ + State.firstAttacksLeft id (series plays (next s p)) ≤ _
        omega
      · have others : State.firstAttacksLeft id (next s p) ≤ State.firstAttacksLeft id s :=
          p.engine.resolve_firstAttacksLeft_le p.cardId p.invocation distinct p.source id
        rw [if_neg acts, List.countP_nil]
        change _ + State.firstAttacksLeft id (series plays (next s p)) ≤ _
        omega

/-- **A card makes its first attack once.**  In any series of plays, by whatever entries,
sides, targets and chances, if the card with an instance id is on the board whenever it
acts, then its plays leave at most one entry of a first attack, and none if it had made it
before.  The copies that are played may be stale, and the other plays may move the card as
they will. -/
theorem first_attack_once (book : Phrasebook) (tracing : Bool) (plays : List (Play ρ))
    {s : State} (distinct : s.instanceIds.Nodup) (id : String) (present : Present id plays s) :
    let attacks := (Journal.entries book tracing (toldBy id plays s)).countP
      fun entry => firstAttackKeys.contains entry.key
    attacks ≤ 1 ∧
      ∀ c ∈ s.cards, c.instanceId = id → c.firstActionUsed = true → attacks = 0 := by
  intro attacks
  have counted : attacks = (toldBy id plays s).countP (Event.isKeyed firstAttackKeys) :=
    Journal.countP_keys book tracing (by decide) _
  have bounded := series_firstAttacks id plays distinct present
  refine ⟨?_, fun c member same used => ?_⟩
  · have once := State.firstAttacksLeft_le_one distinct id
    omega
  · have spent := State.firstAttacksLeft_of_used distinct member used
    rw [same] at spent
    omega

end Play

namespace Example

/-- The knight attacks the ogre, the lanes are exchanged, and the knight attacks again, played
as a copy that has not seen the first attack. -/
def attacks : List (Play Lcg) :=
  let knight : Invocation := ⟨.red, card "knight" .battlefield, some (card "ogre" .battlefield)⟩
  let attack := engine [.known (.freezeOnFirstAttack 2)]
  [⟨attack, 1, knight, .ofSeed 7⟩,
    ⟨engine [.known .swapBattlefields], 1, ⟨.blue, card "goblin" .battlefield, none⟩, .ofSeed 8⟩,
    ⟨attack, 1, knight, .ofSeed 9⟩]

theorem knight_attacks_once :
    duel.instanceIds.Nodup ∧ Play.Present "knight" attacks duel ∧
      ((Journal.entries (.standard .english) true (Play.toldBy "knight" attacks duel)).countP
        fun entry => firstAttackKeys.contains entry.key) ≤ 1 := by
  have distinct : duel.instanceIds.Nodup := by decide
  have present : Play.Present "knight" attacks duel := by
    refine ⟨fun _ => ⟨⟨.red, .battlefield, 0⟩, card "knight" .battlefield, rfl, rfl⟩, ?_, ?_,
      trivial⟩
    · exact fun same => absurd same (by decide)
    -- the exchange has put the marked knight on blue's first lane
    · exact fun _ => ⟨⟨.blue, .battlefield, 0⟩,
        { card "knight" .battlefield with firstActionUsed := true }, by decide, rfl⟩
  exact ⟨distinct, present, (Play.first_attack_once _ true attacks distinct "knight" present).1⟩

end Example

end LaneDuel
