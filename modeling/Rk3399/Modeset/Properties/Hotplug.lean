import Rk3399.Modeset.Model.Connectors
/-!
# Hotplug selects the right output

The wanted output is the first usable HDMI-A connector, and every usable
connector where there is no such one. `updateModes` only ever sets an
HDMI-A connector, as the test of its loop assigns; `drm_get_connector` takes
an HDMI-A connector that is not connected where it comes first. So the two
select the wanted output exactly where the first HDMI-A connector with modes
is connected, or where nothing is usable.
-/

namespace Rk3399

namespace Modeset

open DrmModeConnector

variable {crtcs : List Nat} {gDrmConnector : Option DrmModeConnector}
  {conns : List (Option DrmModeConnector)}

/-! ## The wanted output -/

/-- The connectors of a list that are there. -/
def connectors (conns : List (Option DrmModeConnector)) : List DrmModeConnector :=
  conns.filterMap id

/-- The usable connectors of a list. -/
def usable (conns : List (Option DrmModeConnector)) : List DrmModeConnector :=
  (connectors conns).filter fun conn => decide conn.Usable

/-- **The wanted output**: the first usable HDMI-A connector, or every usable
connector where there is none. -/
def wanted (conns : List (Option DrmModeConnector)) : List DrmModeConnector :=
  match (usable conns).find? fun conn => decide (conn.connectorType = DRM_MODE_CONNECTOR_HDMIA) with
  | some conn => [conn]
  | none => usable conns

/-- The connectors `setMode` is called on. -/
def setModeCalls (actions : List Action) : List DrmModeConnector :=
  actions.filterMap fun a =>
    match a with
    | .setMode conn => some conn
    | .vsyncControl _ => none
    | .atomicCommit _ => none

/-- A request is committed that makes every CRTC inactive. -/
def DisablesAll (crtcs : List Nat) (actions : List Action) : Prop :=
  ∃ props, .atomicCommit props ∈ actions ∧ ∀ crtc ∈ crtcs, (crtc, .active, 0) ∈ props

/-- **Hotplug selects the wanted output.** -/
structure HotplugRight (crtcs : List Nat) (gDrmConnector : Option DrmModeConnector)
    (conns : List (Option DrmModeConnector)) : Prop where
  disables : usable conns = [] → DisablesAll crtcs (updateModes crtcs conns)
  sets : setModeCalls (updateModes crtcs conns) = wanted conns
  connector : drmGetConnector gDrmConnector conns = (wanted conns).head?

/-! ## The loops -/

theorem connectors_none : connectors (none :: conns) = connectors conns := rfl

theorem connectors_some (conn : DrmModeConnector) :
    connectors (some conn :: conns) = conn :: connectors conns := rfl

theorem countMonitor_foldl (conns : List (Option DrmModeConnector)) : ∀ s : Nat × Bool,
    (conns.foldl countMonitor s).1 = s.1 + (usable conns).length := by
  induction conns with
  | nil => exact fun _ => rfl
  | cons conn conns ih =>
    intro s
    rw [List.foldl_cons, ih]
    cases conn with
    | none => rfl
    | some conn =>
      by_cases h : conn.Usable
      · simp [countMonitor, usable, connectors_some, h]
        omega
      · simp [countMonitor, usable, connectors_some, h]

/-- The second loop sets the first usable HDMI-A connector, whatever the flag
was. -/
theorem setModeCalls_setModes (conns : List (Option DrmModeConnector)) : ∀ isHdmiConnect,
    setModeCalls (setModes isHdmiConnect conns) =
      ((connectors conns).find? fun conn => decide conn.UsableHdmi).toList := by
  induction conns with
  | nil => exact fun _ => rfl
  | cons conn conns ih =>
    intro isHdmiConnect
    cases conn with
    | none => exact ih _
    | some conn =>
      by_cases h : conn.UsableHdmi
      · simp [setModes, setModeCalls, connectors_some, h]
      · simpa [setModes, connectors_some, h] using ih true

theorem findHdmi_eq (conns : List (Option DrmModeConnector)) :
    findHdmi conns = ((connectors conns).find? fun conn => decide conn.UsableHdmi).isSome := by
  induction conns with
  | nil => rfl
  | cons conn conns ih =>
    cases conn with
    | none => exact ih
    | some conn =>
      by_cases h : conn.UsableHdmi
      · simp [findHdmi, connectors_some, h]
      · simpa [findHdmi, connectors_some, h] using ih

/-- From an empty `g_drm_connector`, the second loop picks the first connector
its branch takes. -/
theorem pickConnector_none (isHdmiConnect : Bool) (conns : List (Option DrmModeConnector)) :
    pickConnector isHdmiConnect none conns = (connectors conns).find? fun conn =>
      if isHdmiConnect then decide conn.HdmiModes else decide conn.Usable := by
  induction conns with
  | nil => rfl
  | cons conn conns ih =>
    cases conn with
    | none => exact ih
    | some conn =>
      rw [pickConnector, connectors_some, List.find?_cons]
      cases isHdmiConnect
      · by_cases h : conn.Usable
        · simp [h]
        · simpa [h] using ih
      · by_cases h : conn.HdmiModes
        · simp [h]
        · simpa [h] using ih

/-- Where there is a connector in the list, what was in `g_drm_connector` does not
matter. -/
theorem pickConnector_of_ne_nil (isHdmiConnect : Bool) (h : conns ≠ []) :
    pickConnector isHdmiConnect gDrmConnector conns = pickConnector isHdmiConnect none conns := by
  cases conns with
  | nil => exact absurd rfl h
  | cons conn conns =>
    cases conn with
    | none => rfl
    | some conn => rfl

/-! ## The selection -/

theorem find?_usableHdmi (conns : List (Option DrmModeConnector)) :
    ((usable conns).find? fun conn => decide (conn.connectorType = DRM_MODE_CONNECTOR_HDMIA)) =
      (connectors conns).find? fun conn => decide conn.UsableHdmi := by
  rw [usable, List.find?_filter]
  congr 1
  funext conn
  exact decide_eq_decide.mpr (by simp [UsableHdmi])

/-- What `updateModes` does where nothing is usable. -/
theorem updateModes_disable (h : usable conns = []) :
    updateModes crtcs conns =
      [.vsyncControl false, .atomicCommit (disableRequest crtcs conns)] := by
  have hcount := countMonitor_foldl conns (0, false)
  rw [h] at hcount
  exact if_pos hcount

/-- What `updateModes` sets where something is usable. -/
theorem setModeCalls_updateModes (h : usable conns ≠ []) :
    setModeCalls (updateModes crtcs conns) =
      ((connectors conns).find? fun conn => decide conn.UsableHdmi).toList := by
  have hcount := countMonitor_foldl conns (0, false)
  have hlen : 0 < (usable conns).length := List.length_pos_iff.mpr h
  have hne : (conns.foldl countMonitor (0, false)).1 ≠ 0 := by
    rw [hcount]
    omega
  have hupdate : updateModes crtcs conns =
      setModes (conns.foldl countMonitor (0, false)).2 conns ++ [.vsyncControl true] :=
    if_neg hne
  rw [hupdate, setModeCalls, List.filterMap_append]
  have hsets := setModeCalls_setModes conns (conns.foldl countMonitor (0, false)).2
  rw [setModeCalls] at hsets
  simp [hsets]

theorem disablesAll_disableRequest :
    DisablesAll crtcs [.vsyncControl false, .atomicCommit (disableRequest crtcs conns)] := by
  refine ⟨disableRequest crtcs conns, by simp, fun crtc hcrtc => ?_⟩
  refine List.mem_append_right _ (List.mem_flatMap.mpr ⟨crtc, hcrtc, ?_⟩)
  simp

/-- **When hotplug is right**: nothing is usable and no freed connector is left
over an empty list, or the first HDMI-A connector with modes is connected. -/
def SelectsRight (gDrmConnector : Option DrmModeConnector)
    (conns : List (Option DrmModeConnector)) : Prop :=
  if usable conns = [] then gDrmConnector = none ∨ conns ≠ []
  else ∃ conn, ((connectors conns).find? fun conn => decide conn.HdmiModes) = some conn ∧
    conn.connection = DRM_MODE_CONNECTED

theorem hotplugRight_of_unusable (h : usable conns = []) :
    HotplugRight crtcs gDrmConnector conns ↔ gDrmConnector = none ∨ conns ≠ [] := by
  -- without a usable connector neither search finds one
  have hwanted : wanted conns = [] := by
    rw [wanted, h]
    rfl
  have hall : ∀ conn ∈ connectors conns, ¬ conn.Usable := by
    intro conn hconn husable
    have hmem : conn ∈ usable conns := List.mem_filter.mpr ⟨hconn, decide_eq_true husable⟩
    rw [h] at hmem
    exact absurd hmem List.not_mem_nil
  have hhdmi : findHdmi conns = false := by
    rw [findHdmi_eq, Option.isSome_eq_false_iff, Option.isNone_iff_eq_none, List.find?_eq_none]
    intro conn hconn
    simpa using fun husable : conn.UsableHdmi => hall conn hconn husable.1
  have hpick : pickConnector false none conns = none := by
    rw [pickConnector_none, List.find?_eq_none]
    intro conn hconn
    simpa using hall conn hconn
  have hconnector : drmGetConnector gDrmConnector conns = none ↔
      gDrmConnector = none ∨ conns ≠ [] := by
    rw [drmGetConnector, hhdmi]
    by_cases hnil : conns = []
    · subst hnil
      simp [pickConnector]
    · rw [pickConnector_of_ne_nil _ hnil, hpick]
      simp [hnil]
  constructor
  · intro hright
    refine hconnector.mp ?_
    rw [hright.connector, hwanted]
    rfl
  · intro hcond
    refine ⟨fun _ => ?_, ?_, ?_⟩
    · rw [updateModes_disable h]
      exact disablesAll_disableRequest
    · rw [updateModes_disable h, hwanted]
      rfl
    · rw [hconnector.mpr hcond, hwanted]
      rfl

/-- The first HDMI-A connector with modes is the first usable one where it is
connected. -/
theorem find?_usableHdmi_of_connected {l : List DrmModeConnector} {conn : DrmModeConnector}
    (h : (l.find? fun conn => decide conn.HdmiModes) = some conn)
    (hconn : conn.connection = DRM_MODE_CONNECTED) :
    (l.find? fun conn => decide conn.UsableHdmi) = some conn := by
  obtain ⟨hmodes, before, after, hl, hbefore⟩ := List.find?_eq_some_iff_append.mp h
  have hhdmi : conn.HdmiModes := of_decide_eq_true hmodes
  refine List.find?_eq_some_iff_append.mpr ⟨?_, before, after, hl, fun d hd => ?_⟩
  · exact decide_eq_true ⟨⟨hconn, hhdmi.1⟩, hhdmi.2⟩
  · have hno : ¬ d.HdmiModes := by simpa using hbefore d hd
    simpa using fun husable : d.UsableHdmi => hno ⟨husable.1.2, husable.2⟩

theorem hotplugRight_of_usable (h : usable conns ≠ []) :
    HotplugRight crtcs gDrmConnector conns ↔
      ∃ conn, ((connectors conns).find? fun conn => decide conn.HdmiModes) = some conn ∧
        conn.connection = DRM_MODE_CONNECTED := by
  have hnil : conns ≠ [] := by
    rintro rfl
    exact h rfl
  have hget : drmGetConnector gDrmConnector conns =
      (connectors conns).find? fun conn =>
        if findHdmi conns then decide conn.HdmiModes else decide conn.Usable := by
    rw [drmGetConnector, pickConnector_of_ne_nil _ hnil, pickConnector_none]
  constructor
  · intro hright
    have hsets := hright.sets
    have hconnector := hright.connector
    rw [setModeCalls_updateModes h] at hsets
    cases hfind : (connectors conns).find? fun conn => decide conn.UsableHdmi with
    | none =>
      -- no HDMI-A connector is set, and the others are not set either
      rw [wanted, find?_usableHdmi, hfind] at hsets
      exact absurd hsets.symm h
    | some conn =>
      rw [hget, findHdmi_eq, hfind, wanted, find?_usableHdmi, hfind] at hconnector
      have husable : conn.UsableHdmi := by simpa using List.find?_some hfind
      exact ⟨conn, by simpa using hconnector, husable.1.1⟩
  · rintro ⟨conn, hfind, hconn⟩
    have hfirst := find?_usableHdmi_of_connected hfind hconn
    have hwanted : wanted conns = [conn] := by
      rw [wanted, find?_usableHdmi, hfirst]
    refine ⟨fun hno => absurd hno h, ?_, ?_⟩
    · rw [setModeCalls_updateModes h, hfirst, hwanted]
      rfl
    · rw [hget, findHdmi_eq, hfirst, hwanted]
      simpa using hfind

/-- **Hotplug selects the wanted output exactly where `SelectsRight` says.** -/
theorem hotplugRight_iff :
    HotplugRight crtcs gDrmConnector conns ↔ SelectsRight gDrmConnector conns := by
  unfold SelectsRight
  split
  · exact hotplugRight_of_unusable ‹_›
  · exact hotplugRight_of_usable ‹_›

/-- **Hotplug selects nothing where only a TV output is connected.** -/
theorem hotplug_wrong : ¬ ∀ crtcs gDrmConnector conns, HotplugRight crtcs gDrmConnector conns := by
  intro hall
  have hsets := (hall [31] none [some ⟨40, 13, .connected, 1⟩]).sets
  exact absurd hsets (by decide)

end Modeset

end Rk3399
