/-
Programs of the shop: a roster action under the player's lock, and the
offers rolled at the start of a planning phase.
-/
import AutoChess.Runtime.Combat

namespace AutoChess.Shop

open AutoChess.Game AutoChess.Runtime Calls

def SHOP_TTL_SECONDS : Nat := 30 * 60
def ACTION_LOCK_TTL_MS : Nat := 5000
def ACTION_LOCK_ATTEMPTS : Nat := 40

/-- The client's offer index, slot and ids, with the id of the action. -/
inductive ShopAction where
  | buy (offerIndex : Nat)
  | sell (source : Place) (slot : Nat)
  | refresh
  | fuse (unitId : UnitId) (sourceInstanceId targetInstanceId : Option String)
  deriving DecidableEq, Repr

structure ActionContext where
  runtime : MatchRuntimeState
  side : Side
  held : Holdings

variable (matchId : String) (host : Host)

/-- Tries for the player's lock, ten milliseconds apart. -/
def acquireLock (lock : Lock) (owner : String) (busy : Rejection) : Nat → M Unit
  | 0 => Prog.throw (.reject busy)
  | attempts + 1 => do
    let acquired ← call (.setLock lock owner ACTION_LOCK_TTL_MS)
    if acquired then
      return ()
    else
      call (.sleep 10)
      acquireLock lock owner busy attempts

def shopBusy : Rejection := ⟨"shop.busy", "Another shop action is still being processed"⟩

def shopSide (runtime : MatchRuntimeState) (userId : String) : M Side :=
  if runtime.player1Id = userId then pure .p1
  else if runtime.player2Id = userId then pure .p2
  else fail "match.not_participant" "User is not a participant"

def actionContext (userId : String) (expectedRound : Nat) : M ActionContext := do
  let hash ← call .hgetall
  match parseRuntimeHash matchId hash with
  | none => fail "match.runtime_not_found" "Match runtime was not found"
  | some runtime =>
    if runtime.round ≠ expectedRound then
      fail "match.round_mismatch" s!"Expected round {runtime.round}"
    else if runtime.phase ≠ .shop_place then
      fail "match.not_your_turn" "Shop actions require the shop_place phase"
    else
      let side ← shopSide runtime userId
      match ← call (.getShop userId) with
      | none => fail "shop.offers_not_found" "Shop offers were not found for this round"
      | some shop =>
        if shop.round ≠ expectedRound then
          fail "shop.offers_not_found" "Shop offers were not found for this round"
        else
          return { runtime := runtime, side := side, held := ⟨sideState runtime side, shop⟩ }

/-- What the action makes of the player's holdings. -/
def mutate (userId : String) (round : Nat) (runtime : MatchRuntimeState) (held : Holdings) :
    ShopAction → M Holdings
  | .buy offerIndex => do
    let offer ← orReject (offerToBuy held offerIndex)
    let randomUUID ← call .randomUUID
    orReject (buyOffer held offerIndex offer randomUUID)
  | .sell source slot => orReject (sellUnit held source slot)
  | .refresh => orReject (refreshOffers host.digests runtime.matchSeed round userId held)
  | .fuse unitId sourceInstanceId targetInstanceId =>
    orReject (fuseUnits held unitId sourceInstanceId targetInstanceId)

def playerId (runtime : MatchRuntimeState) : Side → String
  | .p1 => runtime.player1Id
  | .p2 => runtime.player2Id

def publishOffers (runtime : MatchRuntimeState) (userId : String)
    (offers : List (Option ShopOffer)) : M Unit :=
  publishToUser userId (.offers runtime.matchId runtime.round offers)

/-- Stores the new holdings with the action's log entry; false for a
duplicate. -/
def persistAction (context : ActionContext) (after : Holdings) (clientActionId : String) :
    M Bool := do
  match ← call (.actionLog (playerId context.runtime context.side) clientActionId
      (stateField context.side after.state) (some (after.shop, SHOP_TTL_SECONDS)) .shop_place
      context.runtime.round) with
  | .roundMismatch =>
    fail "match.round_mismatch" "The match advanced before this action committed"
  | .phaseMismatch =>
    fail "match.not_your_turn" "The shop phase ended before this action committed"
  | .duplicate => return false
  | .recorded =>
    call (.updateState context.side after.state)
    publishState context.runtime context.side after.state
    return true

/-- The body of `withAction`, under the lock; true for a duplicate. -/
def performAction (userId : String) (round : Nat) (clientActionId : String) (action : ShopAction) :
    M Bool := do
  let logged ← call (.hexistsActionLog userId clientActionId)
  if logged then
    return true
  else
    let context ← actionContext matchId userId round
    let after ← mutate host userId round context.runtime context.held action
    let stored ← persistAction context after clientActionId
    if !stored then
      return true
    else if action = .refresh then
      publishOffers context.runtime userId after.shop.offers
      return false
    else
      return false

def withAction (userId : String) (round : Nat) (clientActionId : String) (action : ShopAction) :
    M Bool := do
  let logged ← call (.hexistsActionLog userId clientActionId)
  if logged then
    return true
  else
    let owner ← call .randomUUID
    acquireLock (.shop userId) owner shopBusy ACTION_LOCK_ATTEMPTS
    (performAction matchId host userId round clientActionId action).ensuring
      (call (.releaseOwnedLock (.shop userId) owner))

def resetShop (runtime : MatchRuntimeState) (playerId : String) : M Unit := do
  let offers := (generateOffers host.digests runtime.matchSeed runtime.round playerId 0).map some
  call (.setShop playerId
    { round := runtime.round, refreshCount := 0, refreshUsed := false, offers := offers }
    SHOP_TTL_SECONDS)
  publishOffers runtime playerId offers

def rollOffersForMatch (runtime : MatchRuntimeState) : M Unit :=
  (resetShop host runtime runtime.player1Id).both (resetShop host runtime runtime.player2Id)

end AutoChess.Shop
