/-
# LaneDuel.Proofs.Effect.Tells -- an effect tells what it does, and only that

`Run.Tells keys r r'` says three things of a later stage of a run.  The log has only
grown; what is new in it are traces and entries with one of some keys; and where none
of that is for players to read, nothing has been done: the table and the cards are as
they were.  The relation goes through runs of effects (`Tells.trans`, `Tells.fold`).

Each kind of atom has its own keys (`AtomKind.keys`), and every atom tells by them
(`Atom.perform_tells`).  So entries of one sort can be counted by looking at the kinds
that tell them (`Run.Tells.tally_eq`): a count of a log is a count of what the journal
records, in any words and with or without traces (`Journal.countP_entries`).
-/
import LaneDuel.Journal.Entry
import LaneDuel.Proofs.Effect.Accounts

namespace LaneDuel

set_option autoImplicit false

/-! ## Keys in a journal -/

namespace Journal

/-- Counting recorded entries is counting events, if no trace is counted. -/
theorem countP_entries (b : Phrasebook) (tracing : Bool) {p : Entry → Bool}
    (loud : ∀ t : Trace, p (Entry.ofEvent b (.trace t)) = false) (es : List Event) :
    (entries b tracing es).countP p = es.countP fun e => p (Entry.ofEvent b e) := by
  have kept : ∀ e : Event, (p (Entry.ofEvent b e) && recorded tracing e.level)
      = p (Entry.ofEvent b e) := by
    intro e
    cases e with
    | notice n => cases n <;> simp [recorded, Event.level, Notice.level]
    | trace t => rw [loud, Bool.false_and]
  rw [entries, List.countP_filter, List.countP_map]
  exact List.countP_congr fun e _ => iff_of_eq (congrArg (· = true) (kept e))

end Journal

/-- Whether an event has one of some keys. -/
def Event.isKeyed (keys : List String) (e : Event) : Bool := keys.contains e.key

theorem Journal.countP_keys (b : Phrasebook) (tracing : Bool) {keys : List String}
    (loud : "trace" ∉ keys) (es : List Event) :
    ((entries b tracing es).countP fun e => keys.contains e.key)
      = es.countP (Event.isKeyed keys) :=
  countP_entries b tracing (fun _ => by simpa [Entry.ofEvent, Event.key] using loud) es

/-! ## Stages of a run -/

namespace Run

variable {ρ : Type}

/-- How many entries with some keys a run has told. -/
def tally (keys : List String) (r : Run ρ) : Nat := r.log.countP (Event.isKeyed keys)

@[simp] theorem tally_tell (keys : List String) (r : Run ρ) (es : List Event) :
    (r.tell es).tally keys = r.tally keys + es.countP (Event.isKeyed keys) :=
  List.countP_append

/-- What a later stage has told: entries with some keys, and something for players to
read if it has done anything. -/
def Tells (keys : List String) (r r' : Run ρ) : Prop :=
  ∃ es, r'.log = r.log ++ es ∧ (∀ e ∈ es, e.key = "trace" ∨ e.key ∈ keys) ∧
    ((∀ e ∈ es, e.level ≠ .info) → r'.table = r.table ∧ r'.cards = r.cards)

namespace Tells

variable {keys : List String} {r r' r'' : Run ρ}

theorem refl (keys : List String) (r : Run ρ) : r.Tells keys r :=
  ⟨[], (List.append_nil _).symm, by simp, fun _ => ⟨rfl, rfl⟩⟩

theorem trans (h : r.Tells keys r') (h' : r'.Tells keys r'') : r.Tells keys r'' := by
  obtain ⟨es, log, keyed, silent⟩ := h
  obtain ⟨es', log', keyed', silent'⟩ := h'
  refine ⟨es ++ es', by rw [log', log, List.append_assoc], ?_, ?_⟩
  · intro e new
    rcases List.mem_append.mp new with first | second
    · exact keyed e first
    · exact keyed' e second
  · intro quiet
    obtain ⟨table, cards⟩ := silent fun e new => quiet e (List.mem_append_left _ new)
    obtain ⟨table', cards'⟩ := silent' fun e new => quiet e (List.mem_append_right _ new)
    exact ⟨table'.trans table, cards'.trans cards⟩

theorem fold {α : Type} {step : Run ρ → α → Run ρ}
    (each : ∀ (r : Run ρ) a, r.Tells keys (step r a)) (r : Run ρ) (as : List α) :
    r.Tells keys (as.foldl step r) := by
  induction as generalizing r with
  | nil => exact refl keys r
  | cons a as ih => exact (each r a).trans (ih (step r a))

/-- Something is said and nothing done. -/
theorem of_tell (r : Run ρ) {es : List Event} (keyed : ∀ e ∈ es, e.key = "trace" ∨ e.key ∈ keys) :
    r.Tells keys (r.tell es) :=
  ⟨es, rfl, keyed, fun _ => ⟨rfl, rfl⟩⟩

/-- Anything is done, and then something said that players read. -/
theorem of_info {es : List Event} (log : r'.log = r.log ++ es)
    (keyed : ∀ e ∈ es, e.key = "trace" ∨ e.key ∈ keys) (info : ∃ e ∈ es, e.level = .info) :
    r.Tells keys r' := by
  refine ⟨es, log, keyed, fun quiet => ?_⟩
  obtain ⟨e, new, level⟩ := info
  exact absurd level (quiet e new)

/-- Anything is done, and then one thing said that players read. -/
theorem of_notice (n : Notice) (log : r'.log = r.log ++ [.notice n]) (keyed : n.key ∈ keys)
    (info : n.level = .info) : r.Tells keys r' :=
  of_info log (by simpa [Event.key] using Or.inr keyed) ⟨_, List.mem_singleton_self _, info⟩

/-- Entries with keys that are none of an effect's are not counted up by it. -/
theorem tally_eq (h : r.Tells keys r') {counted : List String} (loud : "trace" ∉ counted)
    (apart : ∀ key ∈ keys, key ∉ counted) : r'.tally counted = r.tally counted := by
  obtain ⟨es, log, keyed, -⟩ := h
  have none_new : es.countP (Event.isKeyed counted) = 0 := by
    rw [List.countP_eq_zero]
    intro e new
    rcases keyed e new with trace | key
    · simpa [Event.isKeyed, trace] using loud
    · simpa [Event.isKeyed] using apart _ key
  rw [tally, log, List.countP_append, none_new, Nat.add_zero, tally]

end Tells

end Run

/-! ## Changes -/

namespace Effect

/-- A change of a card that tells of itself by some keys: where players read nothing, the
card is as it was. -/
structure Avows (keys : List String) (change : Card → Card × List Event) : Prop where
  keyed : ∀ c, ∀ e ∈ (change c).2, e.key = "trace" ∨ e.key ∈ keys
  silent : ∀ c, (∀ e ∈ (change c).2, e.level ≠ .info) → (change c).1 = c

theorem avows_changeAtk (amount : Int) (condition : Option Condition) :
    Avows ["effect.atk_changed"] (changeAtk amount condition) where
  keyed c := by unfold changeAtk; split <;> simp [Event.key, Notice.key]
  silent c := by unfold changeAtk; split <;> simp [Event.level, Notice.level]

theorem avows_changeHp (amount : Int) (condition : Option Condition) :
    Avows ["effect.hp_changed"] (changeHp amount condition) where
  keyed c := by unfold changeHp; split <;> simp [Event.key, Notice.key]
  silent c := by unfold changeHp; split <;> simp [Event.level, Notice.level]

theorem avows_changeAtkWithBonus (base bonus : Int) (condition : Condition) :
    Avows ["effect.atk_changed", "effect.atk_changed_bonus"]
      (changeAtkWithBonus base bonus condition) where
  keyed c := by
    simp only [changeAtkWithBonus]
    split
    · simp
    · split <;> simp [Event.key, Notice.key]
  silent c := by
    simp only [changeAtkWithBonus]
    split
    · simp
    · split <;> simp [Event.level, Notice.level]

theorem avows_changeHpWithBonus (base bonus : Int) (condition : Condition) :
    Avows ["effect.hp_changed", "effect.hp_changed_bonus"]
      (changeHpWithBonus base bonus condition) where
  keyed c := by
    simp only [changeHpWithBonus]
    split
    · simp
    · split <;> simp [Event.key, Notice.key]
  silent c := by
    simp only [changeHpWithBonus]
    split
    · simp
    · split <;> simp [Event.level, Notice.level]

theorem avows_frost (turns : Nat) : Avows ["effect.card_frozen"] (frost turns) where
  keyed c := by simp [frost, Event.key, Notice.key]
  silent c := by simp [frost, Event.level, Notice.level]

theorem avows_thaw : Avows ["effect.card_unfrozen"] thaw where
  keyed c := by unfold thaw; split <;> simp [Event.key, Notice.key]
  silent c := by unfold thaw; split <;> simp [Event.level, Notice.level]

theorem avows_shield : Avows ["effect.card_immune"] shield where
  keyed c := by simp [shield, Event.key, Notice.key]
  silent c := by simp [shield, Event.level, Notice.level]

theorem avows_buffMonster (amount : Int) :
    Avows ["effect.hell_lord_buff", "effect.hell_lord_debuff"] (buffMonster amount) where
  keyed c := by unfold buffMonster; split <;> simp [Event.key, Notice.key]
  silent c := by unfold buffMonster; split <;> simp [Event.level, Notice.level]

theorem avows_debuffMonster :
    Avows ["effect.hell_lord_buff", "effect.hell_lord_debuff"] debuffMonster where
  keyed c := by unfold debuffMonster; split <;> simp [Event.key, Notice.key]
  silent c := by unfold debuffMonster; split <;> simp [Event.level, Notice.level]

theorem avows_hit (damage : Int) : Avows ["effect.cascade_hit", "effect.card_defeated"] (hit damage)
    where
  keyed c := by simp only [hit]; split <;> simp [Event.key, Notice.key]
  silent c := by simp [hit, Event.level, Notice.level]

end Effect

/-! ## Kinds and their keys -/

namespace AtomKind

/-- The keys of the entries that an atom of a kind may come to.  A kind with a filter also
reports an acting card that is not on the battlefields. -/
def keys : AtomKind → List String
  | modifyAtk => ["engine.self_not_found", "effect.atk_changed"]
  | modifyHp => ["engine.self_not_found", "effect.hp_changed"]
  | conditionalModifyAtk =>
    ["engine.self_not_found", "effect.atk_changed", "effect.atk_changed_bonus"]
  | conditionalModifyHp => ["engine.self_not_found", "effect.hp_changed", "effect.hp_changed_bonus"]
  | playerHeal => ["effect.player_heal"]
  | playerDamage => ["effect.player_damage"]
  | killCard => ["engine.self_not_found", "effect.card_killed"]
  | clearField => ["effect.card_cleared"]
  | freeze => ["engine.self_not_found", "effect.card_frozen"]
  | removeDebuffs => ["engine.self_not_found", "effect.card_unfrozen"]
  | gainCoins => ["effect.coins_gained"]
  | conditionalKillPlayer => ["effect.execute_success", "effect.execute_fail"]
  | cascadeDamage => ["effect.cascade_hit", "effect.card_defeated"]
  | drawFromDiscard => ["effect.discard_empty", "effect.draw_from_discard"]
  | discardAndRedraw => ["effect.hand_shuffled_back", "effect.redraw"]
  | drawCards => ["effect.cards_drawn", "effect.cards_drawn_bonus", "effect.deck_short"]
  | hellLordBonus => ["effect.hell_lord_buff", "effect.hell_lord_debuff"]
  | swapBattlefields => ["effect.battlefields_swapped"]
  | freezeOnFirstAttack => ["effect.first_attack", "effect.first_attack_freeze"]
  | addImmunity => ["engine.self_not_found", "effect.card_immune"]
  | swapRandomHands => ["effect.hands_swapped", "effect.hands_swap_empty"]
  | skipTurn => ["effect.skip_turn"]
  | uiModeMessage => ["effect.ui_mode"]

end AtomKind

theorem Atom.avows_of_edit? {a : Atom} {f : TargetFilter} {change : Card → Card × List Event}
    (h : a.edit? = some (f, change)) :
    ∃ keys, a.kind.keys = "engine.self_not_found" :: keys ∧ Effect.Avows keys change := by
  cases a with
  | modifyAtk amount f c => cases h; exact ⟨_, rfl, Effect.avows_changeAtk amount c⟩
  | modifyHp amount f c => cases h; exact ⟨_, rfl, Effect.avows_changeHp amount c⟩
  | conditionalModifyAtk base bonus c f =>
      cases h; exact ⟨_, rfl, Effect.avows_changeAtkWithBonus base bonus c⟩
  | conditionalModifyHp base bonus c f =>
      cases h; exact ⟨_, rfl, Effect.avows_changeHpWithBonus base bonus c⟩
  | freeze turns f => cases h; exact ⟨_, rfl, Effect.avows_frost turns⟩
  | removeDebuffs f => cases h; exact ⟨_, rfl, Effect.avows_thaw⟩
  | addImmunity f => cases h; exact ⟨_, rfl, Effect.avows_shield⟩
  | _ => cases h

/-! ## Changes in a run -/

namespace Run

variable {ρ : Type} {keys : List String}

theorem edit_tells {change : Card → Card × List Event} (avows : Effect.Avows keys change)
    (r : Run ρ) (o : Origin) : r.Tells keys (r.edit change o) := by
  refine ⟨(change (r.cards o)).2, rfl, avows.keyed _, fun quiet => ⟨rfl, ?_⟩⟩
  funext x
  rw [edit_cards, avows.silent _ quiet]
  split
  · rename_i same
    rw [same]
  · rfl

theorem visit_tells {change : Card → Card × List Event} (avows : Effect.Avows keys change)
    (r : Run ρ) (os : List Origin) : r.Tells keys (r.visit os change) :=
  .fold (edit_tells avows) r os

/-- A search tells of an acting card that is not there, and leaves traces. -/
theorem search_tells (r : Run ρ) (b : Binding) (f : TargetFilter)
    (reports : "engine.self_not_found" ∈ keys) : r.Tells keys (r.tell (r.targets b f).2) := by
  apply Tells.of_tell
  unfold targets
  cases f.target with
  | none => simp [Event.key]
  | some special =>
      cases special with
      | own =>
          simp only
          split
          · simp
          · simpa [Event.key, Notice.key] using reports
      | selected => simp

theorem Tells.mono {r r' : Run ρ} {keys' : List String} (h : r.Tells keys r')
    (sub : ∀ key ∈ keys, key ∈ keys') : r.Tells keys' r' := by
  obtain ⟨es, log, keyed, silent⟩ := h
  exact ⟨es, log, fun e new => (keyed e new).imp_right (sub _), silent⟩

theorem reach_tells {change : Card → Card × List Event} (avows : Effect.Avows keys change)
    (b : Binding) (f : TargetFilter) (r : Run ρ) :
    r.Tells ("engine.self_not_found" :: keys) (r.reach b f change) :=
  (r.search_tells b f List.mem_cons_self).trans
    ((visit_tells avows _ _).mono fun _ => List.mem_cons_of_mem _)

end Run

/-! ## Effects -/

namespace Effect

open Run (Tells)

variable {ρ : Type}

theorem killOne_tells (r : Run ρ) (o : Origin) : r.Tells AtomKind.killCard.keys (killOne r o) := by
  unfold killOne
  simp only
  split
  · exact .of_tell r (by simp [Event.key])
  · split
    · exact .refl _ r
    · exact .of_notice _ rfl (by simp [Notice.key, AtomKind.keys]) rfl

theorem kill_tells (f : TargetFilter) (b : Binding) (r : Run ρ) :
    r.Tells AtomKind.killCard.keys (kill f b r) :=
  (r.search_tells b f List.mem_cons_self).trans (.fold killOne_tells _ _)

theorem clearSide_tells (except : Option (List String)) (r : Run ρ) (side : Side) :
    r.Tells AtomKind.clearField.keys (clearSide except r side) := by
  refine ⟨_, rfl, ?_, fun quiet => ⟨?_, rfl⟩⟩
  · intro e told
    obtain ⟨o, -, rfl⟩ := List.mem_map.mp told
    exact .inr List.mem_cons_self
  -- where nothing is told, no lane is emptied
  have stay : (r.field side).filter (fun o => !spared except (r.cards o)) = [] := by
    rw [List.eq_nil_iff_forall_not_mem]
    intro o gone
    exact quiet _ (List.mem_map_of_mem gone) rfl
  have lanes : sweep (fun o => !spared except (r.cards o)) (r.table.player side).battlefield
      = (r.table.player side).battlefield := by
    rw [sweep]
    refine (List.map_congr_left fun lane member => ?_).trans (List.map_id _)
    cases lane with
    | none => rfl
    | some o =>
        have onField : o ∈ r.field side := mem_taken.mpr member
        have keeps := List.filter_eq_nil_iff.mp stay o onField
        simpa using keeps
  have kept : r.table.modifyPlayer side (fun p => { p with
      battlefield := sweep (fun o => !spared except (r.cards o)) p.battlefield }) = r.table :=
    Table.modifyPlayer_eq_self (by rw [lanes])
  simp only [clearSide, Run.tell_table, Run.modifyPlayer_eq, Run.modifyTable_table, kept, stay,
    Table.discard, List.append_nil]

theorem clearField_tells (f : Option ClearFieldFilter) (b : Binding) (r : Run ρ) :
    r.Tells AtomKind.clearField.keys (clearField f b r) :=
  .fold (clearSide_tells _) r _

theorem hellLord_tells (b : Binding) (r : Run ρ) :
    r.Tells AtomKind.hellLordBonus.keys (hellLord b r) :=
  (Run.visit_tells (avows_buffMonster _) r _).trans (Run.visit_tells avows_debuffMonster _ _)

theorem cascade_tells (base : Int) (b : Binding) (r : Run ρ) :
    r.Tells AtomKind.cascadeDamage.keys (cascade base b r) :=
  .fold (fun r (o, rank) => Run.edit_tells (avows_hit (cascadeAt base rank)) r o) r _

theorem execute_tells (c : KillCondition) (b : Binding) (r : Run ρ) :
    r.Tells AtomKind.conditionalKillPlayer.keys (execute c b r) := by
  unfold execute
  simp only
  split
  · exact .of_notice _ rfl (by simp [Notice.key, AtomKind.keys]) rfl
  · exact .of_notice _ rfl (by simp [Notice.key, AtomKind.keys]) rfl

theorem firstAttack_tells (turns : Int) (b : Binding) (r : Run ρ) :
    r.Tells AtomKind.freezeOnFirstAttack.keys (firstAttack turns b r) := by
  unfold firstAttack
  simp only
  split
  · exact .of_tell r (by simp [Event.key])
  · split
    · exact .of_notice _ rfl (by simp [Notice.key, AtomKind.keys]) rfl
    · exact .of_notice _ rfl (by simp [Notice.key, AtomKind.keys]) rfl

theorem drawDiscarded_tells (amount : Nat) (b : Binding) (r : Run ρ) :
    r.Tells AtomKind.drawFromDiscard.keys (drawDiscarded amount b r) := by
  unfold drawDiscarded
  simp only
  split
  · exact .of_notice _ rfl (by simp [Notice.key, AtomKind.keys]) rfl
  · rename_i some_
    refine ⟨_, rfl, ?_, fun quiet => ⟨?_, rfl⟩⟩
    · intro e told
      obtain ⟨o, -, rfl⟩ := List.mem_map.mp told
      exact .inr (List.mem_cons_of_mem _ List.mem_cons_self)
    -- the pile is not empty, so silence means that nothing was asked for
    have nothing : r.table.discardPile.reverse.take amount = [] := by
      rw [List.eq_nil_iff_forall_not_mem]
      intro o taken
      exact quiet _ (List.mem_map_of_mem taken) rfl
    have left : (r.table.discardPile.reverse.drop amount).reverse = r.table.discardPile := by
      have parted := List.take_append_drop amount r.table.discardPile.reverse
      rw [nothing, List.nil_append] at parted
      rw [parted, List.reverse_reverse]
    simp only [Run.tell_table, Run.modifyPlayer_eq, Run.modifyTable_table, nothing, left]
    exact Table.modifyPlayer_eq_self (by rw [addToHand, List.append_nil])

theorem redraw_tells [RandomSource ρ] (b : Binding) (r : Run ρ) :
    r.Tells AtomKind.discardAndRedraw.keys (redraw b r) := by
  unfold redraw
  simp only
  split
  · exact .of_tell r (by simp [Event.key])
  · exact .of_info rfl (by simp [Event.key, Notice.key, AtomKind.keys])
      ⟨_, List.mem_cons_self, rfl⟩

theorem drawWanted_tells (base bonus : Nat) (b : Binding) (r : Run ρ) :
    r.Tells AtomKind.drawCards.keys (drawWanted base bonus b r) := by
  unfold drawWanted
  simp only
  refine .of_info rfl ?_ ⟨_, List.mem_cons_self, ?_⟩
  · intro e told
    rcases List.mem_cons.mp told with rfl | short
    · split <;> simp [Event.key, Notice.key, AtomKind.keys]
    · split at short
      · rw [List.mem_singleton.mp short]
        simp [Event.key, Notice.key, AtomKind.keys]
      · cases short
  · split <;> rfl

theorem exchange_tells (given taken : List Origin) (b : Binding) (r : Run ρ) :
    r.Tells AtomKind.swapRandomHands.keys (exchange given taken b r) := by
  unfold exchange
  split
  · exact .of_notice _ rfl (by simp [Notice.key, AtomKind.keys]) rfl
  · exact .of_notice _ rfl (by simp [Notice.key, AtomKind.keys]) rfl

theorem swapHands_tells [RandomSource ρ] (amount : Nat) (b : Binding) (r : Run ρ) :
    r.Tells AtomKind.swapRandomHands.keys (swapHands amount b r) :=
  exchange_tells _ _ b { r with source := _ }

end Effect

/-- **Every atom tells what it does, by the keys of its kind.** -/
theorem Atom.perform_tells {ρ : Type} [RandomSource ρ] (b : Binding) (r : Run ρ) (a : Atom) :
    r.Tells a.kind.keys (a.perform b r) := by
  cases edits : a.edit? with
  | some e =>
      obtain ⟨keys, kind, avows⟩ := avows_of_edit? edits
      rw [kind, perform_of_edit? edits]
      exact Run.reach_tells avows b e.1 r
  | none =>
      cases a with
      | playerHeal amount f => exact .of_notice _ rfl List.mem_cons_self rfl
      | playerDamage amount f => exact .of_notice _ rfl List.mem_cons_self rfl
      | gainCoins amount c => exact .of_notice _ rfl List.mem_cons_self rfl
      | killCard f => exact Effect.kill_tells f b r
      | clearField f => exact Effect.clearField_tells f b r
      | conditionalKillPlayer c => exact Effect.execute_tells c b r
      | cascadeDamage base => exact Effect.cascade_tells base b r
      | drawFromDiscard amount => exact Effect.drawDiscarded_tells amount b r
      | discardAndRedraw => exact Effect.redraw_tells b r
      | drawCards base bonus c => exact Effect.drawWanted_tells base _ b r
      | hellLordBonus => exact Effect.hellLord_tells b r
      | swapBattlefields => exact .of_notice _ rfl List.mem_cons_self rfl
      | freezeOnFirstAttack turns => exact Effect.firstAttack_tells turns b r
      | swapRandomHands amount => exact Effect.swapHands_tells amount b r
      | skipTurn => exact .of_notice _ rfl List.mem_cons_self rfl
      | uiModeMessage message => exact .of_notice _ rfl List.mem_cons_self rfl
      | _ => cases edits

end LaneDuel
