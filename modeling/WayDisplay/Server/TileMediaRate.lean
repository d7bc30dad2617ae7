import WayDisplay.Foundation.Runs
import WayDisplay.Server.BandwidthPlan

/-!
The media rate of the tile stream (`wd_stream.c`).

A measured link rate gives a bandwidth plan; its tile share is the ceiling of
the tile media rate.  Once a second the controller lowers the rate after
sustained send pressure and raises it after sustained health, between the
plan's floor and ceiling.  The floor, the ceiling and the rate itself each pass
through the clamp that keeps a link rate within the global limits.
-/

namespace WayDisplay.Server

open WayDisplay.Foundation

def udpRateDefault : UInt64 := 1024 * 1024

def udpRateMin : UInt64 := 25 * 1024

def udpRateMax : UInt64 := 1000 * 1024 * 1024 * 1024

def clampLinkRate (bytesPerSecond : UInt64) : UInt64 :=
  let rate := if bytesPerSecond = 0 then udpRateDefault else bytesPerSecond
  let rate := if rate < udpRateMin then udpRateMin else rate
  if udpRateMax < rate then udpRateMax else rate

/-- The rates of `wd_stream_policy` that the tile stream is metered by. -/
structure TileRates where
  safeLinkBytesPerSecond : UInt64
  recentLinkBytesPerSecond : UInt64
  bandwidthAudioEnabled : Bool
  bandwidthAudioBitrate : UInt32
  tileFreshBytesPerSecond : UInt64
  tileRepairBytesPerSecond : UInt64
  adaptiveTileFreshBytesPerSecond : UInt64
  tileMediaBytesPerSecond : UInt64
  tileMediaFloorBytesPerSecond : UInt64
  tileMediaCeilingBytesPerSecond : UInt64
  linkGoodSeconds : UInt32
  linkLossSeconds : UInt32
  deriving DecidableEq, Repr

namespace TileRates

def planLinkRate (rates : TileRates) : UInt64 :=
  let rate :=
    if rates.recentLinkBytesPerSecond = 0 then rates.safeLinkBytesPerSecond
    else rates.recentLinkBytesPerSecond
  clampLinkRate (if rate = 0 then udpRateDefault else rate)

def takePlan (rates : TileRates) (plan : BandwidthPlan) : TileRates :=
  { rates with
    safeLinkBytesPerSecond :=
      if rates.safeLinkBytesPerSecond = 0 then plan.linkBytesPerSecond
      else rates.safeLinkBytesPerSecond
    recentLinkBytesPerSecond := plan.linkBytesPerSecond
    tileFreshBytesPerSecond := plan.freshTileBytesPerSecond
    tileRepairBytesPerSecond := plan.repairBytesPerSecond }

def takeTilePlan (rates : TileRates) (plan : BandwidthPlan) : TileRates :=
  let tileRate := plan.mediaBytes .tiles
  let freshFloor :=
    if plan.freshTileBytesPerSecond < udpRateMin then
      plan.freshTileBytesPerSecond
    else udpRateMin
  { rates with
    adaptiveTileFreshBytesPerSecond := plan.freshTileBytesPerSecond
    tileMediaBytesPerSecond := tileRate
    tileMediaFloorBytesPerSecond := plan.repairBytesPerSecond + freshFloor
    tileMediaCeilingBytesPerSecond := tileRate }

def rebuildBandwidthPlan (rates : TileRates) (mode : BandwidthMode) :
    TileRates :=
  let plan := BandwidthPlan.build rates.planLinkRate mode
    rates.bandwidthAudioEnabled rates.bandwidthAudioBitrate
  match mode with
  | .tiles => (rates.takePlan plan).takeTilePlan plan
  | .video => rates.takePlan plan

def setLinkRate (rates : TileRates) (bytesPerSecond : UInt64)
    (audioEnabled : Bool) (audioBitrate : UInt32) : TileRates :=
  let rate := clampLinkRate bytesPerSecond
  rebuildBandwidthPlan
    { rates with
      safeLinkBytesPerSecond := rate
      recentLinkBytesPerSecond := rate
      bandwidthAudioEnabled := audioEnabled
      bandwidthAudioBitrate := if audioEnabled then audioBitrate else 0
      linkGoodSeconds := 0
      linkLossSeconds := 0 } .tiles

def tileMediaRateFloor (rates : TileRates) : UInt64 :=
  clampLinkRate
    (if rates.tileMediaFloorBytesPerSecond = 0 then udpRateMin
    else rates.tileMediaFloorBytesPerSecond)

def tileMediaRateCeiling (rates : TileRates) : UInt64 :=
  clampLinkRate
    (if rates.tileMediaCeilingBytesPerSecond = 0 then udpRateMax
    else rates.tileMediaCeilingBytesPerSecond)

/-- The rate as `set_tile_media_rate` bounds it. -/
def boundedRate (rates : TileRates) (rate : UInt64) : UInt64 :=
  let rate := clampLinkRate rate
  let rate := if rate < rates.tileMediaRateFloor then
    rates.tileMediaRateFloor else rate
  if rates.tileMediaRateCeiling < rate then rates.tileMediaRateCeiling else rate

def takeRate (rates : TileRates) (rate : UInt64) : TileRates :=
  { rates with
    tileMediaBytesPerSecond := rate
    adaptiveTileFreshBytesPerSecond :=
      if rates.tileRepairBytesPerSecond < rate then
        rate - rates.tileRepairBytesPerSecond
      else 0 }

def setTileMediaRate (rates : TileRates) (rate : UInt64) : TileRates :=
  if rates.boundedRate rate = rates.tileMediaBytesPerSecond then rates
  else rates.takeRate (rates.boundedRate rate)

def lossSecondsToDecrease : UInt32 := 2

def goodSecondsToIncrease : UInt32 := 4

def ratePressureDecreasePercent : UInt64 := 65

def rateIncreasePercent : UInt64 := 125

def rateIncreaseMinBytes : UInt64 := 64 * 1024

def countLoss (rates : TileRates) : TileRates :=
  { rates with
    linkGoodSeconds := 0
    linkLossSeconds :=
      if rates.linkLossSeconds < 4294967295 then rates.linkLossSeconds + 1
      else rates.linkLossSeconds }

def countGood (rates : TileRates) : TileRates :=
  { rates with
    linkLossSeconds := 0
    linkGoodSeconds :=
      if rates.linkGoodSeconds < 4294967295 then rates.linkGoodSeconds + 1
      else rates.linkGoodSeconds }

def forgetSeconds (rates : TileRates) : TileRates :=
  { rates with linkGoodSeconds := 0, linkLossSeconds := 0 }

def decreasedRate (oldRate : UInt64) : UInt64 :=
  oldRate * ratePressureDecreasePercent / 100

def increasedRate (oldRate : UInt64) : UInt64 :=
  let percentRate := oldRate * rateIncreasePercent / 100
  let stepRate := oldRate + rateIncreaseMinBytes
  if stepRate < percentRate then percentRate else stepRate

def updateTileMediaRate (rates : TileRates)
    (ratePressure usefulTileActivity : Bool) : TileRates :=
  let oldRate := clampLinkRate rates.tileMediaBytesPerSecond
  if ratePressure then
    let counted := rates.countLoss
    if counted.linkLossSeconds < lossSecondsToDecrease then counted
    else counted.forgetSeconds.setTileMediaRate (decreasedRate oldRate)
  else if !usefulTileActivity then rates.forgetSeconds
  else
    let counted := rates.countGood
    if counted.linkGoodSeconds < goodSecondsToIncrease then counted
    else counted.forgetSeconds.setTileMediaRate (increasedRate oldRate)

end TileRates

inductive RateEvent where
  | rebuild
  | adapt (ratePressure usefulTileActivity : Bool)
  deriving DecidableEq, Repr

def RateEvent.step (rates : TileRates) : RateEvent → TileRates
  | .rebuild => rates.rebuildBandwidthPlan .tiles
  | .adapt ratePressure usefulTileActivity =>
      rates.updateTileMediaRate ratePressure usefulTileActivity

/-! ## The clamp -/

theorem toNat_clampLinkRate (bytesPerSecond : UInt64) :
    (clampLinkRate bytesPerSecond).toNat =
      min (max (if bytesPerSecond = 0 then 1048576 else bytesPerSecond.toNat)
        25600) 1073741824000 := by
  have least : udpRateMin.toNat = 25600 := rfl
  have most : udpRateMax.toNat = 1073741824000 := rfl
  simp only [clampLinkRate]
  generalize given : (if bytesPerSecond = 0 then udpRateDefault
    else bytesPerSecond) = rate
  have value : (if bytesPerSecond = 0 then 1048576 else bytesPerSecond.toNat) =
      rate.toNat := by
    rw [← given]
    split
    · rfl
    · rfl
  rw [value]
  split
  · rename_i low
    rw [UInt64.lt_iff_toNat_lt, least] at low
    rw [if_neg (by decide), least]
    omega
  · rename_i high
    rw [UInt64.lt_iff_toNat_lt, least] at high
    split
    · rename_i exceeds
      rw [UInt64.lt_iff_toNat_lt, most] at exceeds
      rw [most]
      omega
    · rename_i exceeds
      rw [UInt64.lt_iff_toNat_lt, most] at exceeds
      omega

theorem clampLinkRate_ne_zero (bytesPerSecond : UInt64) :
    clampLinkRate bytesPerSecond ≠ 0 := by
  intro zero
  have value := toNat_clampLinkRate bytesPerSecond
  rw [zero] at value
  simp only [UInt64.reduceToNat] at value
  omega

theorem clampLinkRate_clampLinkRate (bytesPerSecond : UInt64) :
    clampLinkRate (clampLinkRate bytesPerSecond) =
      clampLinkRate bytesPerSecond := by
  apply UInt64.toNat_inj.mp
  have value := toNat_clampLinkRate bytesPerSecond
  rw [toNat_clampLinkRate, if_neg (clampLinkRate_ne_zero _)]
  omega

/-! ## The plan's bounds in a run -/

def tileShare (link : UInt64) : UInt64 :=
  percentOf link tileFreshPercent + percentOf link tileRepairPercent

theorem toNat_freshShare (link : UInt64) :
    (percentOf link tileFreshPercent).toNat = link.toNat * 70 / 100 :=
  toNat_percentOf link (by decide)

theorem toNat_repairShare (link : UInt64) :
    (percentOf link tileRepairPercent).toNat = link.toNat * 5 / 100 :=
  toNat_percentOf link (by decide)

theorem toNat_tileShare (link : UInt64) :
    (tileShare link).toNat = link.toNat * 70 / 100 + link.toNat * 5 / 100 := by
  have bounded := link.toNat_lt
  rw [tileShare, UInt64.toNat_add, toNat_freshShare, toNat_repairShare]
  exact Nat.mod_eq_of_lt (by omega)

namespace TileRates

structure Planned (link : UInt64) (rates : TileRates) : Prop where
  recent : rates.recentLinkBytesPerSecond = link
  fresh : rates.tileFreshBytesPerSecond = percentOf link tileFreshPercent
  repair : rates.tileRepairBytesPerSecond = percentOf link tileRepairPercent
  ceiling : rates.tileMediaCeilingBytesPerSecond = tileShare link
  /-- The media rate is the plan's, or has passed the clamped ceiling. -/
  media : rates.tileMediaBytesPerSecond = tileShare link ∨
    rates.tileMediaBytesPerSecond ≤ rates.tileMediaRateCeiling
  divided : rates.tileRepairBytesPerSecond ≤ rates.tileMediaBytesPerSecond →
    rates.adaptiveTileFreshBytesPerSecond.toNat +
        rates.tileRepairBytesPerSecond.toNat ≤
      rates.tileMediaBytesPerSecond.toNat

variable {rates : TileRates} {link : UInt64}

theorem planned_rebuild (recent : rates.recentLinkBytesPerSecond = link)
    (nonzero : link ≠ 0) (clamped : clampLinkRate link = link) :
    Planned link (rates.rebuildBandwidthPlan .tiles) := by
  have planned : rates.planLinkRate = link := by
    simp only [planLinkRate, recent, if_neg nonzero, clamped]
  have share : (tileShare link).toNat =
      (percentOf link tileFreshPercent).toNat +
        (percentOf link tileRepairPercent).toNat := by
    rw [toNat_tileShare, toNat_freshShare, toNat_repairShare]
  simp only [rebuildBandwidthPlan, planned]
  exact ⟨rfl, rfl, rfl, rfl, .inl rfl, fun _ => Nat.le_of_eq share.symm⟩

theorem Planned.counted (planned : Planned link rates) (good loss : UInt32) :
    Planned link
      { rates with linkGoodSeconds := good, linkLossSeconds := loss } :=
  ⟨planned.recent, planned.fresh, planned.repair, planned.ceiling,
    planned.media, planned.divided⟩

theorem boundedRate_le (rates : TileRates) (rate : UInt64) :
    rates.boundedRate rate ≤ rates.tileMediaRateCeiling := by
  unfold boundedRate
  dsimp only
  generalize (if clampLinkRate rate < rates.tileMediaRateFloor then
    rates.tileMediaRateFloor else clampLinkRate rate) = raised
  split
  · exact UInt64.le_refl _
  · rename_i within
    exact UInt64.not_lt.mp within

theorem takeRate_ceiling (rates : TileRates) (rate : UInt64) :
    (rates.takeRate rate).tileMediaRateCeiling = rates.tileMediaRateCeiling :=
  rfl

theorem takeRate_divided (rates : TileRates) (rate : UInt64)
    (enough : rates.tileRepairBytesPerSecond ≤ rate) :
    (rates.takeRate rate).adaptiveTileFreshBytesPerSecond.toNat +
        rates.tileRepairBytesPerSecond.toNat ≤ rate.toNat := by
  have enough := UInt64.le_iff_toNat_le.mp enough
  simp only [takeRate]
  split
  · rename_i more
    rw [UInt64.toNat_sub_of_le _ _ (UInt64.le_of_lt more)]
    omega
  · simpa using enough

theorem Planned.setTileMediaRate (planned : Planned link rates) (rate : UInt64) :
    Planned link (rates.setTileMediaRate rate) := by
  have bounded := rates.boundedRate_le rate
  unfold TileRates.setTileMediaRate
  generalize rates.boundedRate rate = bound at bounded ⊢
  split
  · exact planned
  · refine ⟨planned.recent, planned.fresh, planned.repair, planned.ceiling,
      .inr ?_, rates.takeRate_divided bound⟩
    rw [takeRate_ceiling]
    exact bounded

theorem Planned.updateTileMediaRate (planned : Planned link rates)
    (ratePressure usefulTileActivity : Bool) :
    Planned link
      (rates.updateTileMediaRate ratePressure usefulTileActivity) := by
  unfold TileRates.updateTileMediaRate
  dsimp only
  split
  · split
    · exact planned.counted _ _
    · exact (planned.counted 0 0).setTileMediaRate _
  · split
    · exact planned.counted _ _
    · split
      · exact planned.counted _ _
      · exact (planned.counted 0 0).setTileMediaRate _

theorem planned_setLinkRate (rates : TileRates) (rate : UInt64)
    (audioEnabled : Bool) (audioBitrate : UInt32) :
    Planned (clampLinkRate rate)
      (rates.setLinkRate rate audioEnabled audioBitrate) :=
  planned_rebuild rfl (clampLinkRate_ne_zero rate)
    (clampLinkRate_clampLinkRate rate)

theorem Planned.runFrom (rate : UInt64)
    (planned : Planned (clampLinkRate rate) rates) (events : List RateEvent) :
    Planned (clampLinkRate rate)
      (Foundation.runFrom RateEvent.step rates events) := by
  induction events generalizing rates with
  | nil => exact planned
  | cons event rest ih =>
      apply ih
      cases event with
      | rebuild =>
          exact planned_rebuild planned.recent (clampLinkRate_ne_zero rate)
            (clampLinkRate_clampLinkRate rate)
      | adapt ratePressure usefulTileActivity =>
          exact planned.updateTileMediaRate ratePressure usefulTileActivity

/-! ## When the media rate respects the plan -/

/--
The media rate is within the tile share of the plan in force, and the fresh and
the repair rate divide it.
-/
def WithinPlan (rates : TileRates) : Prop :=
  rates.tileMediaBytesPerSecond.toNat ≤
      rates.tileFreshBytesPerSecond.toNat +
        rates.tileRepairBytesPerSecond.toNat ∧
    (rates.tileRepairBytesPerSecond ≤ rates.tileMediaBytesPerSecond →
      rates.adaptiveTileFreshBytesPerSecond.toNat +
          rates.tileRepairBytesPerSecond.toNat ≤
        rates.tileMediaBytesPerSecond.toNat)

instance (rates : TileRates) : Decidable rates.WithinPlan :=
  inferInstanceAs (Decidable (_ ∧ _))

/-- From this link rate on, the tile share is a rate the clamp leaves alone. -/
def ampleLinkRate : Nat := 34135

theorem Planned.share (planned : Planned link rates) :
    rates.tileFreshBytesPerSecond.toNat +
      rates.tileRepairBytesPerSecond.toNat = (tileShare link).toNat := by
  rw [planned.fresh, planned.repair, toNat_tileShare, toNat_freshShare,
    toNat_repairShare]

theorem toNat_ceiling (planned : Planned link rates)
    (large : 25600 ≤ link.toNat) (small : link.toNat ≤ 1073741824000) :
    rates.tileMediaRateCeiling.toNat = max (tileShare link).toNat 25600 := by
  have value := toNat_tileShare link
  have nonzero : tileShare link ≠ 0 := by
    intro zero
    rw [zero] at value
    simp only [UInt64.reduceToNat] at value
    omega
  rw [tileMediaRateCeiling, planned.ceiling, if_neg nonzero,
    toNat_clampLinkRate, if_neg nonzero]
  omega

theorem Planned.withinPlan (planned : Planned link rates)
    (ample : ampleLinkRate ≤ link.toNat) (small : link.toNat ≤ 1073741824000) :
    rates.WithinPlan := by
  refine ⟨?_, planned.divided⟩
  rw [planned.share]
  unfold ampleLinkRate at ample
  have value := toNat_tileShare link
  rcases planned.media with same | bounded
  · exact Nat.le_of_eq (congrArg UInt64.toNat same)
  · have bounded := UInt64.le_iff_toNat_le.mp bounded
    rw [toNat_ceiling planned (by omega) small] at bounded
    omega

/-! The clamp lifts every rate it sees to the global minimum. -/

theorem le_clampLinkRate (bytesPerSecond : UInt64) :
    25600 ≤ (clampLinkRate bytesPerSecond).toNat := by
  rw [toNat_clampLinkRate]
  omega

theorem le_boundedRate (rates : TileRates) (rate : UInt64) :
    25600 ≤ (rates.boundedRate rate).toNat := by
  have floor : 25600 ≤ rates.tileMediaRateFloor.toNat := le_clampLinkRate _
  have ceiling : 25600 ≤ rates.tileMediaRateCeiling.toNat :=
    le_clampLinkRate _
  have raised : 25600 ≤ (if clampLinkRate rate < rates.tileMediaRateFloor then
      rates.tileMediaRateFloor else clampLinkRate rate).toNat := by
    split
    · exact floor
    · exact le_clampLinkRate rate
  unfold boundedRate
  dsimp only
  generalize (if clampLinkRate rate < rates.tileMediaRateFloor then
    rates.tileMediaRateFloor else clampLinkRate rate) = lifted at raised ⊢
  split
  · exact ceiling
  · exact raised

theorem setTileMediaRate_media (rates : TileRates) (rate : UInt64) :
    (rates.setTileMediaRate rate).tileMediaBytesPerSecond =
      rates.boundedRate rate := by
  unfold TileRates.setTileMediaRate
  generalize rates.boundedRate rate = bound
  split
  · rename_i same
    exact same.symm
  · rfl

/-- Two seconds of send pressure on a fresh plan. -/
def pressed : List RateEvent := [.adapt true true, .adapt true true]

def cleared : TileRates where
  safeLinkBytesPerSecond := 0
  recentLinkBytesPerSecond := 0
  bandwidthAudioEnabled := false
  bandwidthAudioBitrate := 0
  tileFreshBytesPerSecond := 0
  tileRepairBytesPerSecond := 0
  adaptiveTileFreshBytesPerSecond := 0
  tileMediaBytesPerSecond := 0
  tileMediaFloorBytesPerSecond := 0
  tileMediaCeilingBytesPerSecond := 0
  linkGoodSeconds := 0
  linkLossSeconds := 0

theorem le_media_pressed (fresh : rates.linkLossSeconds = 0) :
    25600 ≤ (Foundation.runFrom RateEvent.step rates
      pressed).tileMediaBytesPerSecond.toNat := by
  have first : RateEvent.step rates (.adapt true true) = rates.countLoss := by
    have one : rates.countLoss.linkLossSeconds = 1 := by
      simp [countLoss, fresh]
    simp only [RateEvent.step, updateTileMediaRate, if_true, one]
    exact if_pos (by decide)
  have second : RateEvent.step rates.countLoss (.adapt true true) =
      rates.countLoss.countLoss.forgetSeconds.setTileMediaRate
        (decreasedRate (clampLinkRate rates.tileMediaBytesPerSecond)) := by
    have two : rates.countLoss.countLoss.linkLossSeconds = 2 := by
      simp [countLoss, fresh]
    simp only [RateEvent.step, updateTileMediaRate, if_true, two]
    exact if_neg (by decide)
  simp only [pressed, runFrom_cons, runFrom_nil, first, second,
    setTileMediaRate_media]
  exact le_boundedRate _ _

end TileRates

open TileRates in
/--
The media rate stays within the tile share in every run of plan rebuilds and
rate adaptations after a measurement exactly when the measured rate, clamped,
leaves the tiles a share that is itself an admissible link rate.
-/
theorem withinPlan_runs_iff (rates : TileRates) (rate : UInt64)
    (audioEnabled : Bool) (audioBitrate : UInt32) :
    (∀ events : List RateEvent,
      (runFrom RateEvent.step
        (rates.setLinkRate rate audioEnabled audioBitrate) events).WithinPlan) ↔
      ampleLinkRate ≤ (clampLinkRate rate).toNat := by
  have start := planned_setLinkRate rates rate audioEnabled audioBitrate
  constructor
  · intro within
    by_contra scarce
    have after := start.runFrom rate pressed
    have bounded := (within pressed).1
    have lifted := @le_media_pressed (rates.setLinkRate rate audioEnabled
      audioBitrate) rfl
    rw [after.share, toNat_tileShare] at bounded
    unfold ampleLinkRate at scarce
    omega
  · intro ample events
    have value := toNat_clampLinkRate rate
    exact (start.runFrom rate events).withinPlan ample (by omega)

/-- Under pressure a link of 25 KiB/s is sent more tiles than its plan allots. -/
theorem pressure_exceeds_tileShare :
    ¬ (runFrom RateEvent.step (TileRates.cleared.setLinkRate 25600 false 0)
      TileRates.pressed).WithinPlan := by
  decide

theorem withinPlan_runs_megabyte :
    ∀ events : List RateEvent,
      (runFrom RateEvent.step
        (TileRates.cleared.setLinkRate 1048576 true 128000)
        events).WithinPlan :=
  (withinPlan_runs_iff TileRates.cleared 1048576 true 128000).mpr (by decide)

end WayDisplay.Server
