/-
# LaneDuel.Phrasebook.Chinese -- the texts in simplified Chinese

This table has every key; the other languages fall back on it.
-/

namespace LaneDuel.Phrasebook

set_option autoImplicit false

def chineseTexts : List (String × String) := [
  ("side.red", "红方"),
  ("side.blue", "蓝方"),
  ("mode.reposition", "重新部署"),
  ("mode.laneSwap", "替名交换"),
  ("effect.atk_changed", "{name} 攻击力{delta} (当前: {atk})"),
  ("effect.atk_changed_bonus", "{name} 攻击力{delta} (基础{base}+条件加成{bonus}) (当前: {atk})"),
  ("effect.hp_changed", "{name} 生命值{delta} (当前: {hp}/{max_hp})"),
  ("effect.hp_changed_bonus", "{name} 生命值{delta} (基础{base}+条件加成{bonus}) (当前: {hp}/{max_hp})"),
  ("effect.hell_lord_buff", "{name} 攻击力+{amount} 生命值+{amount} (当前: {atk}/{hp})"),
  ("effect.hell_lord_debuff", "{name} 攻击力-{amount} 生命值-{amount} (当前: {atk}/{hp})"),
  ("effect.player_heal", "{side}玩家 生命{delta} (当前: {health})"),
  ("effect.player_damage", "{side}玩家 受到{amount}点伤害 (当前: {health})"),
  ("effect.coins_gained", "{side}获得{amount}金币 (当前: {coins})"),
  ("effect.execute_success", "处决！敌方玩家血量<={threshold}，立即击杀！"),
  ("effect.execute_fail", "处决失败：敌方血量{health} > {threshold}"),
  ("effect.card_killed", "{name} 被杀死"),
  ("effect.card_cleared", "{name} 被清除"),
  ("effect.card_frozen", "{name} 被冻结{turns}回合"),
  ("effect.card_unfrozen", "{name} 解除冻结"),
  ("effect.card_immune", "{name} 获得免疫"),
  ("effect.cascade_hit", "{name} 受到{damage}点伤害 (剩余: {hp})"),
  ("effect.card_defeated", "{name} 被击败"),
  ("effect.first_attack", "{name} 首次攻击能力已触发"),
  ("effect.first_attack_freeze", "{name} 首次攻击：{target} 被冻结{turns}回合"),
  ("effect.draw_from_discard", "{side}从弃牌堆取回 {name}"),
  ("effect.discard_empty", "弃牌堆为空"),
  ("effect.hand_shuffled_back", "{side}将 {count} 张手牌洗回牌堆"),
  ("effect.redraw", "{side}重新抽取 {normal} 张普通牌与 {miracle} 张奇迹牌"),
  ("effect.cards_drawn", "{side}抽取 {count} 张牌"),
  ("effect.cards_drawn_bonus", "{side}抽取 {count} 张牌 (基础{base}+条件加成{bonus})"),
  ("effect.deck_short", "牌堆不足：需要 {wanted} 张，仅剩 {count} 张"),
  ("effect.hands_swapped", "交换手牌：{self_count} 张 ↔ {opponent_count} 张"),
  ("effect.hands_swap_empty", "双方都没有可交换的手牌"),
  ("effect.battlefields_swapped", "红蓝双方战场互换"),
  ("effect.skip_turn", "立刻结束回合"),
  ("effect.ui_mode", "{message}"),
  ("engine.target_lost", "错误：目标卡牌丢失"),
  ("engine.target_required", "错误：{card} 需要选择目标！"),
  ("engine.unknown_atom", "错误：未实现的效果 {atom}"),
  ("engine.self_not_found", "错误：找不到卡牌自身 {name}"),
  ("engine.ui_mode", "{card} 进入{mode}模式"),
  ("exc.game_error", "游戏错误"),
  ("exc.catalog_error", "卡牌效果配置错误"),
  ("exc.unknown_atom", "未知的效果原子"),
  ("exc.target_not_found", "目标不存在"),
  ("exc.invalid_state", "游戏状态数据不合法"),
  ("cli.title", "已配置的卡牌效果"),
  ("cli.col_id", "编号"),
  ("cli.col_name", "名称"),
  ("cli.col_kind", "类型"),
  ("cli.col_trigger", "时机"),
  ("cli.col_target", "需要目标"),
  ("cli.col_atoms", "效果链"),
  ("cli.not_found", "没有编号为 {card_id} 的卡牌配置"),
  ("cli.valid", "配置有效：{count} 张卡牌"),
  ("cli.invalid", "配置无效：{error}")
]

end LaneDuel.Phrasebook
