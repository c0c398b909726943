import Cx4Kernel.Cbios.DpMainLink

/-! The mode filter and the choice of the link of `CBiosDPMonitor.c`. -/

namespace Cx4Kernel.Cbios

/-- `CBIOS_DP_USB_MODE`. -/
inductive DpUsbMode where
  | standard
  | altmode
  | tunnel
deriving DecidableEq

/-- `CBIOS_DP_MONITOR_CONTEXT`, as far as the link is chosen from it. -/
structure DpMonitorContext where
  sinkMaxLaneCount : U32
  sinkMaxLinkSpeed : U32
  supportTPS3 : Bool
  sourceMaxLaneCount : U32
  sourceMaxLinkSpeed : U32
  sourceSupportTPS3 : Bool
  laneNumberToUse : U32
  linkSpeedToUse : U32
  bpc : U32
  targetTiming : TimingAttrib
  enableTPS3 : Bool
  dpUsbMode : DpUsbMode
  currentDpUsbMode : DpUsbMode
  altMaxLaneCount : U32
  lttprCount : U8
  lttprMaxLaneCount : U32
  lttprMaxLinkRate : U32
  supportedLinkRates : Vector U32 8
  supportedLinkRateNum : U32
  useLinkRateSet : Bool
deriving DecidableEq

/-- The port and the places outside of the context that can name a link: an automation test of
the sink, the registry, and the parameters of the panel.
-/
structure DpPort where
  edpSupported : Bool
  runCTS : Bool
  destTimingFlag : U32
  getAutoTestDpcdData : DpMonitorContext → Bool × DpMonitorContext
  getSinkCapsFromSpecificPlace : U32 → DpMonitorContext → Bool × DpMonitorContext
  hardcodeLinkPara : Option (U32 × U32)

def dpDefaultBpc : U32 := 8

def edpPreferMaxLinkRate : U32 := cbiosDpLinkSpeed5400Mbps

/-- The largest pixel clock of a link, which divides by the bits of a pixel. -/
def maxClock (linkSpeed bpc laneNum : U32) : Option U32 :=
  if bpc * 3 = 0 then none else some (linkSpeed / (bpc * 3) * laneNum * 8)

/-- `cbDPMonitor_GetMaxSupportedDclk`. -/
def DpMonitorContext.getMaxSupportedDclk (ctx : DpMonitorContext) : Option U32 :=
  let tunneled := ctx.dpUsbMode = .tunnel ∧ ctx.lttprCount ≠ 0
  let maxLaneCount :=
    if ctx.dpUsbMode = .altmode then
      if ctx.altMaxLaneCount < ctx.sinkMaxLaneCount then ctx.altMaxLaneCount
      else ctx.sinkMaxLaneCount
    else if tunneled then
      if ctx.lttprMaxLaneCount < ctx.sinkMaxLaneCount then ctx.lttprMaxLaneCount
      else ctx.sinkMaxLaneCount
    else ctx.sinkMaxLaneCount
  let maxLinkSpeed :=
    if tunneled ∧ ctx.lttprMaxLinkRate < ctx.sinkMaxLinkSpeed then ctx.lttprMaxLinkRate
    else ctx.sinkMaxLinkSpeed
  let bpc := if dpDefaultBpc < ctx.bpc then dpDefaultBpc else ctx.bpc
  maxClock maxLinkSpeed bpc maxLaneCount

/-- The number of lanes before the source is asked. -/
def DpMonitorContext.chooseLaneNum (ctx : DpMonitorContext) : U32 :=
  let laneNum := ctx.sinkMaxLaneCount
  let laneNum :=
    if ctx.currentDpUsbMode = .altmode ∧ ctx.altMaxLaneCount < laneNum then ctx.altMaxLaneCount
    else laneNum
  if ctx.currentDpUsbMode = .tunnel ∧ ctx.lttprCount ≠ 0 ∧ ctx.lttprMaxLaneCount < laneNum then
    ctx.lttprMaxLaneCount
  else laneNum

/-- The lowest standard speed for the pixel clock. -/
def chooseLinkSpeed (pixelClock bpc laneNum : U32) : Option U32 := do
  let maxSupportClock5400 ← maxClock cbiosDpLinkSpeed5400Mbps bpc laneNum
  let maxSupportClock2700 ← maxClock cbiosDpLinkSpeed2700Mbps bpc laneNum
  let maxSupportClock1620 ← maxClock cbiosDpLinkSpeed1620Mbps bpc laneNum
  some (
    if pixelClock < maxSupportClock1620 then cbiosDpLinkSpeed1620Mbps
    else if pixelClock < maxSupportClock2700 then cbiosDpLinkSpeed2700Mbps
    else if pixelClock < maxSupportClock5400 then cbiosDpLinkSpeed5400Mbps
    else cbiosDpLinkSpeed8100Mbps)

/-- The speed is cut to what the sink and the repeaters can do. -/
def DpMonitorContext.clampLinkSpeed (ctx : DpMonitorContext) (linkSpeed : U32) : U32 :=
  let linkSpeed := if ctx.sinkMaxLinkSpeed < linkSpeed then ctx.sinkMaxLinkSpeed else linkSpeed
  if ctx.currentDpUsbMode = .tunnel ∧ ctx.lttprCount ≠ 0 ∧ ctx.lttprMaxLinkRate < linkSpeed then
    ctx.lttprMaxLinkRate
  else linkSpeed

/-- A panel has its own rules, the last of which reads the table of its rates. -/
def DpMonitorContext.overrideForPanel (port : DpPort) (ctx : DpMonitorContext)
    (laneNum linkSpeed : U32)
    : Option (U32 × U32) :=
  if port.edpSupported then
    let (laneNum, linkSpeed) :=
      match port.hardcodeLinkPara with
      | some (hardLaneNum, hardLinkSpeed) => (hardLaneNum, hardLinkSpeed)
      | none =>
        if ctx.sinkMaxLinkSpeed ≤ edpPreferMaxLinkRate then (laneNum, ctx.sinkMaxLinkSpeed)
        else (laneNum, linkSpeed)
    if ctx.useLinkRateSet then
      match ctx.supportedLinkRates[(ctx.supportedLinkRateNum - 1).toNat]? with
      | some linkRate => some (laneNum, linkRate)
      | none => none
    else some (laneNum, linkSpeed)
  else some (laneNum, linkSpeed)

/-- The choice from the capabilities, in `if(!bGotLinkPara)`. -/
def DpMonitorContext.chooseLink (port : DpPort) (ctx : DpMonitorContext)
    : Option DpMonitorContext := do
  let ctx := if dpDefaultBpc < ctx.bpc then { ctx with bpc := dpDefaultBpc } else ctx
  let laneNum := ctx.chooseLaneNum
  let linkSpeed ← chooseLinkSpeed ctx.targetTiming.pixelClock ctx.bpc laneNum
  let linkSpeed := ctx.clampLinkSpeed linkSpeed
  let (laneNum, linkSpeed) ← ctx.overrideForPanel port laneNum linkSpeed
  let maxClockForCurrentLinkSpeed ← maxClock linkSpeed ctx.bpc laneNum
  let ctx :=
    if maxClockForCurrentLinkSpeed < ctx.targetTiming.pixelClock ∧ dpDefaultBpc < ctx.bpc then
      { ctx with bpc := dpDefaultBpc }
    else ctx
  some { ctx with linkSpeedToUse := linkSpeed, laneNumberToUse := laneNum }

/-- The limits of the source, which come last. -/
def DpMonitorContext.clampToSource (ctx : DpMonitorContext) : DpMonitorContext :=
  { ctx with
    laneNumberToUse :=
      if ctx.sourceMaxLaneCount < ctx.laneNumberToUse then ctx.sourceMaxLaneCount
      else ctx.laneNumberToUse
    linkSpeedToUse :=
      if ctx.sourceMaxLinkSpeed < ctx.linkSpeedToUse then ctx.sourceMaxLinkSpeed
      else ctx.linkSpeedToUse
    enableTPS3 := if ctx.sourceSupportTPS3 then ctx.supportTPS3 else false }

/-- `cbDPMonitor_DetermineLinkTrainingPara`, which fails at a division by 0 and at a read outside
of the table of rates.
-/
def DpMonitorContext.determineLinkTrainingPara (port : DpPort) (isAutoTest : Bool)
    (ctx : DpMonitorContext)
    : Option DpMonitorContext := do
  let flag := if port.runCTS then 2 else port.destTimingFlag
  let (gotLinkPara, ctx) :=
    if isAutoTest then port.getAutoTestDpcdData ctx
    else if flag &&& 0x03 ≠ 0 then port.getSinkCapsFromSpecificPlace flag ctx
    else (false, ctx)
  let ctx ← if gotLinkPara then some ctx else ctx.chooseLink port
  some ctx.clampToSource

end Cx4Kernel.Cbios
