/-
# LaneDuel.Phrasebook.English -- the texts in English
-/

namespace LaneDuel.Phrasebook

set_option autoImplicit false

def englishTexts : List (String × String) := [
  ("side.red", "Red"),
  ("side.blue", "Blue"),
  ("mode.reposition", "reposition"),
  ("mode.laneSwap", "lane swap"),
  ("effect.atk_changed", "{name} ATK {delta} (now {atk})"),
  ("effect.atk_changed_bonus", "{name} ATK {delta} (base {base} + bonus {bonus}) (now {atk})"),
  ("effect.hp_changed", "{name} HP {delta} (now {hp}/{max_hp})"),
  ("effect.hp_changed_bonus", "{name} HP {delta} (base {base} + bonus {bonus}) (now {hp}/{max_hp})"),
  ("effect.hell_lord_buff", "{name} +{amount}/+{amount} (now {atk}/{hp})"),
  ("effect.hell_lord_debuff", "{name} -{amount}/-{amount} (now {atk}/{hp})"),
  ("effect.player_heal", "{side} player health {delta} (now {health})"),
  ("effect.player_damage", "{side} player takes {amount} damage (now {health})"),
  ("effect.coins_gained", "{side} gains {amount} coins (now {coins})"),
  ("effect.execute_success", "Execution! Enemy health <= {threshold}, killed instantly!"),
  ("effect.execute_fail", "Execution failed: enemy health {health} > {threshold}"),
  ("effect.card_killed", "{name} was killed"),
  ("effect.card_cleared", "{name} was cleared"),
  ("effect.card_frozen", "{name} is frozen for {turns} turns"),
  ("effect.card_unfrozen", "{name} is no longer frozen"),
  ("effect.card_immune", "{name} gains immunity"),
  ("effect.cascade_hit", "{name} takes {damage} damage ({hp} left)"),
  ("effect.card_defeated", "{name} was defeated"),
  ("effect.first_attack", "{name} used its first-attack ability"),
  ("effect.first_attack_freeze", "{name} first attack: {target} frozen for {turns} turns"),
  ("effect.draw_from_discard", "{side} takes {name} back from the discard pile"),
  ("effect.discard_empty", "The discard pile is empty"),
  ("effect.hand_shuffled_back", "{side} shuffles {count} cards back into the decks"),
  ("effect.redraw", "{side} redraws {normal} regular and {miracle} miracle cards"),
  ("effect.cards_drawn", "{side} draws {count} cards"),
  ("effect.cards_drawn_bonus", "{side} draws {count} cards (base {base} + bonus {bonus})"),
  ("effect.deck_short", "Deck short: wanted {wanted}, only {count} left"),
  ("effect.hands_swapped", "Hands swapped: {self_count} <-> {opponent_count} cards"),
  ("effect.hands_swap_empty", "Neither hand has cards to swap"),
  ("effect.battlefields_swapped", "Red and Blue battlefields swapped"),
  ("effect.skip_turn", "Turn ends immediately"),
  ("effect.ui_mode", "{message}"),
  ("engine.target_lost", "Error: target card lost"),
  ("engine.target_required", "Error: {card} requires a target!"),
  ("engine.unknown_atom", "Error: effect {atom} is not implemented"),
  ("engine.self_not_found", "Error: cannot locate card {name}"),
  ("engine.ui_mode", "{card} enters {mode} mode"),
  ("exc.game_error", "Game error"),
  ("exc.catalog_error", "Invalid card effect configuration"),
  ("exc.unknown_atom", "Unknown effect atom"),
  ("exc.target_not_found", "Target not found"),
  ("exc.invalid_state", "Invalid game state data"),
  ("cli.title", "Configured card effects"),
  ("cli.col_id", "ID"),
  ("cli.col_name", "Name"),
  ("cli.col_kind", "Kind"),
  ("cli.col_trigger", "Trigger"),
  ("cli.col_target", "Target"),
  ("cli.col_atoms", "Atoms"),
  ("cli.not_found", "No effect configured for card {card_id}"),
  ("cli.valid", "Catalog OK: {count} cards"),
  ("cli.invalid", "Catalog invalid: {error}")
]

end LaneDuel.Phrasebook
