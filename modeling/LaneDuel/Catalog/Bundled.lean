/-
# LaneDuel.Catalog.Bundled -- the catalog that comes with the game

Used wherever no other catalog is named.
-/
import LaneDuel.Catalog.Basic

namespace LaneDuel.Catalog

set_option autoImplicit false

/-! ## Short forms -/

/-- An entry that is played from the hand and does nothing yet. -/
def entry (name : String) (kind : Kind) (description : String) : CardEffect where
  name := name
  kind := kind
  trigger := .onPlay
  needsTarget := false
  targetFilter := none
  passive := false
  uiMode := none
  description := description
  aura := none
  effects := []

/-- All cards on the battlefields of a scope. -/
def field (scope : Scope) : TargetFilter := ⟨none, some scope, .battlefield, none, none, none⟩

/-- The acting card. -/
def itself : TargetFilter := ⟨some .own, none, .battlefield, none, none, none⟩

/-- The card the player chose. -/
def selected : TargetFilter := ⟨some .selected, none, .battlefield, none, none, none⟩

def ofRace (races : List String) : Condition := ⟨some races, none, none⟩

/-! ## Entries -/

def bundled : Catalog := ⟨[
  (1, { entry "上帝" .miracle
      "移除我方全体负面效果，我方全体hp+3，玩家hp+3" with
    effects := [
      .known (.removeDebuffs (field .own)),
      .known (.modifyHp 3 (field .own) none),
      .known (.playerHeal 3 ⟨.own⟩)] }),
  (2, { entry "极寒" .miracle
      "敌方场上全体冻结2回合" with
    effects := [
      .known (.freeze 2 (field .opponent))] }),
  (4, { entry "上帝之指" .miracle
      "按敌方血量从高到低依次造成10, 9, 8...点伤害" with
    effects := [
      .known (.cascadeDamage 10)] }),
  (8, { entry "处决" .miracle
      "敌方玩家hp<=7时，立刻杀死" with
    effects := [
      .known (.conditionalKillPlayer ⟨7⟩)] }),
  (9, { entry "末日" .miracle
      "清除战场，并立刻结束回合" with
    effects := [
      .known (.clearField (some ⟨.both, none⟩)),
      .known .skipTurn] }),
  (13, { entry "赐予生命" .miracle
      "我方玩家hp+13" with
    effects := [
      .known (.playerHeal 13 ⟨.own⟩)] }),
  (16, { entry "狼人" .battlefield
      "若被攻击后未死，可再次行动" with
    trigger := .onAfterBattle
    passive := true
    effects := [
      .unknown "checkSurvivalAndAct" [("condition", .obj [("mustSurvive", .bool true)])]] }),
  (28, { entry "空间法师" .battlefield
      "每阶段可重置位置" with
    trigger := .passive
    passive := true
    uiMode := some .reposition
    effects := [
      .known (.uiModeMessage "选择要移动的己方卡牌和目标路线")] }),
  (29, { entry "精灵" .battlefield
      "若场上有>=2的（森林）/（奇珍），atk+2" with
    trigger := .passive
    passive := true
    aura := some ⟨["森林", "奇珍"], 2, ⟨2, 0⟩⟩
    effects := [] }),
  (30, { entry "精灵" .battlefield
      "若场上有>=2的（森林）/（奇珍），atk+2" with
    trigger := .passive
    passive := true
    aura := some ⟨["森林", "奇珍"], 2, ⟨2, 0⟩⟩
    effects := [] }),
  (41, { entry "高等精灵" .battlefield
      "每过1回合，hp+1，atk+2" with
    trigger := .onTurnStart
    passive := true
    effects := [
      .known (.modifyHp 1 itself none),
      .known (.modifyAtk 2 itself none)] }),
  (71, { entry "誓言之剑" .support
      "指定一张场上卡牌，atk+2。若目标是（军队/平民/骷髅），额外atk+1" with
    needsTarget := true
    targetFilter := some (field .both)
    effects := [
      .known (.conditionalModifyAtk 2 1 (ofRace ["军队", "平民", "骷髅"]) selected)] }),
  (72, { entry "誓言之剑" .support
      "指定一张场上卡牌，atk+2。若目标是（军队/平民/骷髅），额外atk+1" with
    needsTarget := true
    targetFilter := some (field .both)
    effects := [
      .known (.conditionalModifyAtk 2 1 (ofRace ["军队", "平民", "骷髅"]) selected)] }),
  (73, { entry "炼金术师的副产品" .support
      "指定一张场上卡牌，hp+3。若目标是（法术），额外hp+1" with
    needsTarget := true
    targetFilter := some (field .both)
    effects := [
      .known (.conditionalModifyHp 3 1 (ofRace ["法术"]) selected)] }),
  (74, { entry "炼金术师的副产品" .support
      "指定一张场上卡牌，hp+3。若目标是（法术），额外hp+1" with
    needsTarget := true
    targetFilter := some (field .both)
    effects := [
      .known (.conditionalModifyHp 3 1 (ofRace ["法术"]) selected)] }),
  (84, { entry "恐惧之哨" .support
      "选定敌方单体，atk-3" with
    needsTarget := true
    targetFilter := some (field .opponent)
    effects := [
      .known (.modifyAtk (-3) selected none)] }),
  (85, { entry "互助" .support
      "我方全体hp+2，若为（平民/奇珍），额外hp+1" with
    effects := [
      .known (.conditionalModifyHp 2 1 (ofRace ["平民", "奇珍"]) (field .own))] }),
  (86, { entry "战意" .support
      "我方全体atk+2，若为（军队），额外atk+1" with
    effects := [
      .known (.conditionalModifyAtk 2 1 (ofRace ["军队"]) (field .own))] }),
  (89, { entry "神旨" .support
      "立刻杀死一张牌" with
    needsTarget := true
    targetFilter := some (field .both)
    effects := [
      .known (.killCard selected)] }),
  (92, { entry "征税" .support
      "立刻获得1金币。若场上存在（贵族/罪犯），则获得2金币" with
    effects := [
      .known (.gainCoins 1 (some ⟨(ofRace ["贵族", "罪犯"]), 2⟩))] }),
  (97, { entry "修城" .support
      "所有建筑牌hp+4" with
    effects := [
      .known (.modifyHp 4 { field .both with race := some ["建筑"] } none)] }),
  (101, { entry "招魂" .support
      "从弃牌堆顶取回1张牌加入手牌" with
    effects := [
      .known (.drawFromDiscard 1)] }),
  (102, { entry "重整旗鼓" .miracle
      "将手牌洗回牌堆，重新抽取同样数量的普通牌和奇迹牌" with
    effects := [
      .known .discardAndRedraw] }),
  (103, { entry "征兵令" .support
      "抽1张牌。若我方场上有（军队），额外抽1张" with
    effects := [
      .known (.drawCards 1 1 (some ⟨["军队"], .own⟩))] }),
  (104, { entry "地狱领主" .battlefield
      "我方怪物atk+3 hp+3（恶魔+4），敌方非传说怪物atk-3 hp-3" with
    effects := [
      .known .hellLordBonus] }),
  (105, { entry "乾坤倒转" .miracle
      "交换双方战场" with
    effects := [
      .known .swapBattlefields] }),
  (106, { entry "冰霜巨人" .battlefield
      "首次攻击时冻结被攻击的卡牌1回合" with
    trigger := .onAfterBattle
    passive := true
    effects := [
      .known (.freezeOnFirstAttack 1)] }),
  (107, { entry "圣盾" .support
      "指定一张我方卡牌获得免疫" with
    needsTarget := true
    targetFilter := some (field .own)
    effects := [
      .known (.addImmunity selected)] }),
  (108, { entry "偷天换日" .miracle
      "双方各随机交换2张手牌" with
    effects := [
      .known (.swapRandomHands 2)] }),
  (109, { entry "替名" .support
      "交换任意两条路线上的卡牌" with
    uiMode := some .laneSwap
    effects := [
      .known (.uiModeMessage "选择两条要交换的路线")] }),
  (110, { entry "天雷" .miracle
      "对敌方玩家造成5点伤害" with
    effects := [
      .known (.playerDamage 5 ⟨.opponent⟩)] })]⟩

end LaneDuel.Catalog
