import Mathlib.Algebra.Order.Ring.Int
import Mathlib.Tactic.Common
/-!
# Connectors

The choice of the display output of `modeset`: `updateModes` of
`modeset.cpp`, which runs on a hotplug event, and `drm_get_connector` of
`drm_common.cpp`, which sets `g_drm_connector`. Both go through the list of
connectors of the device; an entry is `none` where `drmModeGetConnector`
returns `NULL`.
-/

namespace Rk3399

namespace Modeset

/-- `drmModeConnection`. -/
inductive DrmModeConnection where
  | connected
  | disconnected
  | unknownConnection
  deriving DecidableEq, Repr

def DRM_MODE_CONNECTED : DrmModeConnection := .connected

def DRM_MODE_CONNECTOR_HDMIA : Nat := 11

/-- The fields of `drmModeConnector` the choice looks at. -/
structure DrmModeConnector where
  connectorId : Nat
  connectorType : Nat
  connection : DrmModeConnection
  countModes : Int
  deriving DecidableEq, Repr

namespace DrmModeConnector

/-- The connector is connected and has modes. -/
def Usable (conn : DrmModeConnector) : Prop :=
  conn.connection = DRM_MODE_CONNECTED ∧ 0 < conn.countModes

instance (conn : DrmModeConnector) : Decidable conn.Usable := inferInstanceAs (Decidable (_ ∧ _))

/-- The connector is an HDMI-A one that has modes. -/
def HdmiModes (conn : DrmModeConnector) : Prop :=
  0 < conn.countModes ∧ conn.connectorType = DRM_MODE_CONNECTOR_HDMIA

instance (conn : DrmModeConnector) : Decidable conn.HdmiModes :=
  inferInstanceAs (Decidable (_ ∧ _))

/-- The connector is a usable HDMI-A one. -/
def UsableHdmi (conn : DrmModeConnector) : Prop :=
  conn.Usable ∧ conn.connectorType = DRM_MODE_CONNECTOR_HDMIA

instance (conn : DrmModeConnector) : Decidable conn.UsableHdmi :=
  inferInstanceAs (Decidable (_ ∧ _))

end DrmModeConnector

/-- The properties an atomic request sets. -/
inductive DrmProperty where
  | crtcId
  | modeId
  | active
  deriving DecidableEq, Repr

/-- What `updateModes` does to the device: it calls `setMode`, switches vsync, or
commits a request of objects, properties and values. -/
inductive Action where
  | setMode (conn : DrmModeConnector)
  | vsyncControl (enabled : Bool)
  | atomicCommit (props : List (Nat × DrmProperty × Nat))
  deriving DecidableEq, Repr

/-! ## The hotplug event -/

/-- One turn of the first loop of `updateModes`, on `monitor_index` and
`isHdmiConnect`. -/
def countMonitor (s : Nat × Bool) (conn : Option DrmModeConnector) : Nat × Bool :=
  match conn with
  | none => s
  | some conn =>
    if conn.Usable then
      (s.1 + 1, if conn.connectorType = DRM_MODE_CONNECTOR_HDMIA then true else s.2)
    else s

/-- The request that switches every output off: connectors that are not
connected lose their CRTC, and every CRTC its mode. -/
def disableRequest (crtcs : List Nat) (conns : List (Option DrmModeConnector)) :
    List (Nat × DrmProperty × Nat) :=
  conns.flatMap (fun conn =>
    match conn with
    | none => []
    | some conn =>
      if conn.connection ≠ DRM_MODE_CONNECTED then [(conn.connectorId, .crtcId, 0)] else []) ++
  crtcs.flatMap fun crtc => [(crtc, .modeId, 0), (crtc, .active, 0)]

/-- The second loop of `updateModes`. Its test is `if (isHdmiConnect=true)`,
which assigns. -/
def setModes : Bool → List (Option DrmModeConnector) → List Action
  | _, [] => []
  | isHdmiConnect, none :: conns => setModes isHdmiConnect conns
  | _, some conn :: conns =>
    let isHdmiConnect := true
    if isHdmiConnect then
      if conn.UsableHdmi then [.setMode conn] else setModes isHdmiConnect conns
    else if conn.Usable then .setMode conn :: setModes isHdmiConnect conns
    else setModes isHdmiConnect conns

/-- Set the modes of the connectors after a hotplug event. -/
def updateModes (crtcs : List Nat) (conns : List (Option DrmModeConnector)) : List Action :=
  let (monitorIndex, isHdmiConnect) := conns.foldl countMonitor (0, false)
  if monitorIndex = 0 then
    [.vsyncControl false, .atomicCommit (disableRequest crtcs conns)]
  else
    setModes isHdmiConnect conns ++ [.vsyncControl true]

/-! ## The connector of the device -/

/-- The first loop of `drm_get_connector`, which ends at the first usable HDMI-A
connector. -/
def findHdmi : List (Option DrmModeConnector) → Bool
  | [] => false
  | none :: conns => findHdmi conns
  | some conn :: conns => if conn.UsableHdmi then true else findHdmi conns

/-- The second loop of `drm_get_connector`, on `g_drm_connector`. The branch for
HDMI does not look at the connection. -/
def pickConnector (isHdmiConnect : Bool) :
    Option DrmModeConnector → List (Option DrmModeConnector) → Option DrmModeConnector
  | gDrmConnector, [] => gDrmConnector
  | _, none :: conns => pickConnector isHdmiConnect none conns
  | _, some conn :: conns =>
    if isHdmiConnect then
      if conn.HdmiModes then some conn else pickConnector isHdmiConnect none conns
    else if conn.Usable then some conn
    else pickConnector isHdmiConnect none conns

/-- What `drm_get_connector` leaves in `g_drm_connector`, from what is there: the
connector it frees stays there until the loop sets another. -/
def drmGetConnector (gDrmConnector : Option DrmModeConnector)
    (conns : List (Option DrmModeConnector)) : Option DrmModeConnector :=
  pickConnector (findHdmi conns) gDrmConnector conns

end Modeset

end Rk3399
