import IotPlatform.Lib.Run
import IotPlatform.Lib.CText
import IotPlatform.Lib.Binary32

/-!
# The telemetry store

`telemetry_store.c`: the points of all tenants in one array, in the order they were written. A token is bound to one tenant,
and a query returns that tenant's points.
-/

namespace IotPlatform
open Run

def telemetryStoreMaxSeries : Nat := 1024

abbrev telemetryStoreMaxTagLen : Nat := 64

def telemetryStoreMaxTenants : Nat := 16

abbrev Tag : Type := CArray telemetryStoreMaxTagLen

structure TelemetryDataPoint where
  tenantId : Tag
  siteId : Tag
  nodeId : Tag
  deviceClass : Tag
  metricId : Tag
  domainProfileId : Tag
  value : Binary32
  timestampMs : UInt64
  deriving DecidableEq

structure TenantCardinality where
  tenantId : Tag
  seriesCount : UInt32
  active : Bool
  deriving DecidableEq

structure TenantToken where
  tokenId : UInt32
  boundTenantId : Tag
  valid : Bool
  deriving DecidableEq

inductive TelemetryStoreResult where
  | ok | errFull | errParamNull | errTenantNotFound | errUnauthorized
  deriving DecidableEq, Repr

/-- `store` and `cardinality` are the used parts of their arrays. -/
structure TelemetryStore where
  store : List TelemetryDataPoint
  cardinality : List TenantCardinality
  nextTokenId : UInt32
  initialised : Bool
  deriving DecidableEq

def telemetryStoreInit : TelemetryStore := { store := [], cardinality := [], nextTokenId := 1, initialised := true }

def makeSeriesKey (point : TelemetryDataPoint) : List UInt8 :=
  snprintf (telemetryStoreMaxTagLen * 3)
    (point.siteId.text ++ asciiBytes ":" ++ point.nodeId.text ++ asciiBytes ":" ++ point.metricId.text)

/-- The table with the tenant's entry in it and the entry's index; no index when the table is full of others. -/
def findOrCreateCardinality (cardinality : List TenantCardinality) (tenantId : Tag) :
    List TenantCardinality × Option Nat :=
  match cardinality.findIdx? fun entry => entry.active && decide (entry.tenantId.text = tenantId.text) with
  | some i => (cardinality, some i)
  | none =>
    if telemetryStoreMaxTenants ≤ cardinality.length then (cardinality, none)
    else
      (cardinality ++ [{ tenantId := strncpy (telemetryStoreMaxTagLen - 1) tenantId.text, seriesCount := 0, active := true }],
        some cardinality.length)

/-- The recount of a tenant's series, `seen` the keys met so far. -/
def uniqueSeries (tenantId : Tag) (seen : List (List UInt8)) : List TelemetryDataPoint → UInt32
  | [] => UInt32.ofNat seen.length
  | point :: rest =>
    if point.tenantId.text ≠ tenantId.text then uniqueSeries tenantId seen rest
    else if makeSeriesKey point ∈ seen then uniqueSeries tenantId seen rest
    else uniqueSeries tenantId (seen ++ [makeSeriesKey point]) rest

def telemetryStoreWrite (s : TelemetryStore) (point : TelemetryDataPoint) : TelemetryStore × TelemetryStoreResult :=
  if !s.initialised then (s, .errParamNull)
  else if telemetryStoreMaxSeries ≤ s.store.length then (s, .errFull)
  else
    let store := s.store ++ [point]
    let (cardinality, card) := findOrCreateCardinality s.cardinality point.tenantId
    let recounted := match card with
      | some i => cardinality.modify i fun entry => { entry with seriesCount := uniqueSeries point.tenantId [] store }
      | none => cardinality
    ({ s with store := store, cardinality := recounted }, .ok)

/-- `tenantId` is a C string of any length; the token holds what fits. -/
def telemetryIssueTenantToken (s : TelemetryStore) (tenantId : List UInt8) :
    TelemetryStore × Except TelemetryStoreResult TenantToken :=
  if !s.initialised then (s, .error .errParamNull)
  else
    ({ s with nextTokenId := s.nextTokenId + 1 },
      .ok { tokenId := s.nextTokenId, boundTenantId := strncpy (telemetryStoreMaxTagLen - 1) tenantId, valid := true })

/-- The loop of the query: `found` are the points copied out so far. -/
def queryLoop (tenantId : List UInt8) (maxPoints : UInt8) :
    List TelemetryDataPoint → List TelemetryDataPoint → List TelemetryDataPoint
  | [], found => found
  | point :: rest, found =>
    if found.length < maxPoints.toNat then
      queryLoop tenantId maxPoints rest (if point.tenantId.text = tenantId then found ++ [point] else found)
    else found

def telemetryStoreQuery (s : TelemetryStore) (token : TenantToken) (maxPoints : UInt8) :
    Except TelemetryStoreResult (List TelemetryDataPoint) :=
  if !s.initialised then .error .errParamNull
  else if !token.valid then .error .errUnauthorized
  else if token.boundTenantId.text = [] then .error .errUnauthorized
  else .ok (queryLoop token.boundTenantId.text maxPoints s.store [])

/-- Three tags and two colons always fit the buffer. -/
theorem makeSeriesKey_eq (point : TelemetryDataPoint) :
    makeSeriesKey point =
      point.siteId.text ++ asciiBytes ":" ++ point.nodeId.text ++ asciiBytes ":" ++ point.metricId.text := by
  have site := point.siteId.length_text
  have node := point.nodeId.length_text
  have metric := point.metricId.length_text
  have colon : (asciiBytes ":").length = 1 := by decide
  apply snprintf_of_lt
  simp only [List.length_append, colon]
  omega

theorem telemetryIssueTenantToken_token {s : TelemetryStore} {tenantId : List UInt8} {token : TenantToken}
    (issued : (telemetryIssueTenantToken s tenantId).2 = .ok token) :
    token.valid = true ∧ token.boundTenantId.text = (cString tenantId).take (telemetryStoreMaxTagLen - 1) := by
  unfold telemetryIssueTenantToken at issued
  split at issued
  · cases issued
  · obtain rfl := Except.ok.inj issued
    exact ⟨rfl, strncpy_text (telemetryStoreMaxTagLen - 1) tenantId⟩

/-! ### What is stored -/

def storeAfter (writes : List TelemetryDataPoint) : TelemetryStore :=
  finalState telemetryStoreWrite telemetryStoreInit writes

theorem telemetryStoreWrite_store {s : TelemetryStore} (ready : s.initialised = true)
    (room : s.store.length < telemetryStoreMaxSeries) (point : TelemetryDataPoint) :
    (telemetryStoreWrite s point).1.initialised = true ∧ (telemetryStoreWrite s point).1.store = s.store ++ [point] := by
  have notFull : ¬telemetryStoreMaxSeries ≤ s.store.length := Nat.not_le_of_lt room
  simp [telemetryStoreWrite, ready, notFull]

theorem finalState_store (writes : List TelemetryDataPoint) {s : TelemetryStore} (ready : s.initialised = true)
    (within : s.store.length + writes.length ≤ telemetryStoreMaxSeries) :
    (finalState telemetryStoreWrite s writes).initialised = true ∧
      (finalState telemetryStoreWrite s writes).store = s.store ++ writes := by
  induction writes generalizing s with
  | nil => exact ⟨ready, (List.append_nil _).symm⟩
  | cons point rest ih =>
    rw [List.length_cons] at within
    obtain ⟨stillReady, stored⟩ := telemetryStoreWrite_store ready (by omega) point
    have room : (telemetryStoreWrite s point).1.store.length + rest.length ≤ telemetryStoreMaxSeries := by
      rw [stored, List.length_append, List.length_singleton]
      omega
    obtain ⟨ready', stored'⟩ := ih stillReady room
    refine ⟨ready', ?_⟩
    rw [finalState, stored', stored, List.append_assoc, List.singleton_append]

theorem storeAfter_store {writes : List TelemetryDataPoint} (within : writes.length ≤ telemetryStoreMaxSeries) :
    (storeAfter writes).initialised = true ∧ (storeAfter writes).store = writes :=
  finalState_store (s := telemetryStoreInit) writes rfl (by rw [telemetryStoreInit, List.length_nil]; omega)

/-! ### What a tenant sees -/

def TelemetryDataPoint.ownedBy (tenantId : List UInt8) (point : TelemetryDataPoint) : Bool :=
  decide (point.tenantId.text = tenantId)

/-- A tenant's share of a sequence of writes. -/
def tenantView (tenantId : List UInt8) (writes : List TelemetryDataPoint) : List TelemetryDataPoint :=
  writes.filter (·.ownedBy tenantId)

variable {tenantId : List UInt8} {point : TelemetryDataPoint} {writes edited : List TelemetryDataPoint}

theorem tenantView_cons_own (own : point.tenantId.text = tenantId) (writes : List TelemetryDataPoint) :
    tenantView tenantId (point :: writes) = point :: tenantView tenantId writes :=
  List.filter_cons_of_pos (by simpa [TelemetryDataPoint.ownedBy] using own)

theorem tenantView_cons_other (other : point.tenantId.text ≠ tenantId) (writes : List TelemetryDataPoint) :
    tenantView tenantId (point :: writes) = tenantView tenantId writes :=
  List.filter_cons_of_neg (by simpa [TelemetryDataPoint.ownedBy] using other)

/-- Reading on, the loop copies the next points of the tenant until `maxPoints` are found. -/
theorem queryLoop_eq (tenantId : List UInt8) (maxPoints : UInt8) (points found : List TelemetryDataPoint) :
    queryLoop tenantId maxPoints points found =
      found ++ (tenantView tenantId points).take (maxPoints.toNat - found.length) := by
  induction points generalizing found with
  | nil => simp [queryLoop, tenantView]
  | cons point rest ih =>
    rw [queryLoop]
    split
    · rename_i room
      rw [ih]
      by_cases own : point.tenantId.text = tenantId
      · obtain ⟨k, left⟩ := Nat.exists_eq_add_of_lt room
        have here : maxPoints.toNat - found.length = k + 1 := by omega
        have next : maxPoints.toNat - (found.length + 1) = k := by omega
        rw [if_pos own, tenantView_cons_own own, List.length_append, List.length_singleton, here, next, List.take_succ_cons,
          List.append_assoc, List.singleton_append]
      · rw [if_neg own, tenantView_cons_other own]
    · rename_i full
      rw [Nat.sub_eq_zero_of_le (Nat.le_of_not_lt full), List.take_zero, List.append_nil]

theorem telemetryStoreQuery_eq {s : TelemetryStore} (ready : s.initialised = true) {token : TenantToken}
    (valid : token.valid = true) (maxPoints : UInt8) :
    telemetryStoreQuery s token maxPoints =
      if token.boundTenantId.text = [] then .error .errUnauthorized
      else .ok ((tenantView token.boundTenantId.text s.store).take maxPoints.toNat) := by
  simp [telemetryStoreQuery, ready, valid, queryLoop_eq, tenantView]

/-- The second sequence is the first with writes of other tenants inserted and deleted, anywhere. -/
inductive OthersEdited (tenantId : List UInt8) : List TelemetryDataPoint → List TelemetryDataPoint → Prop where
  | done : OthersEdited tenantId [] []
  | kept (point : TelemetryDataPoint) {writes edited : List TelemetryDataPoint}
      (rest : OthersEdited tenantId writes edited) : OthersEdited tenantId (point :: writes) (point :: edited)
  | inserted {point : TelemetryDataPoint} (other : point.tenantId.text ≠ tenantId) {writes edited : List TelemetryDataPoint}
      (rest : OthersEdited tenantId writes edited) : OthersEdited tenantId writes (point :: edited)
  | deleted {point : TelemetryDataPoint} (other : point.tenantId.text ≠ tenantId) {writes edited : List TelemetryDataPoint}
      (rest : OthersEdited tenantId writes edited) : OthersEdited tenantId (point :: writes) edited

theorem OthersEdited.tenantView_eq (edit : OthersEdited tenantId writes edited) :
    tenantView tenantId edited = tenantView tenantId writes := by
  induction edit with
  | done => rfl
  | kept point rest ih =>
    simp only [tenantView, List.filter_cons] at ih ⊢
    rw [ih]
  | inserted other rest ih => rw [tenantView_cons_other other, ih]
  | deleted other rest ih => rw [tenantView_cons_other other, ih]

/-- A token without a tenant is refused; any other sees its tenant's first points as they were written, whatever the others
write. -/
theorem telemetry_tenant_isolation (writes : List TelemetryDataPoint) (within : writes.length ≤ telemetryStoreMaxSeries)
    (token : TenantToken) (valid : token.valid = true) (maxPoints : UInt8) :
    telemetryStoreQuery (storeAfter writes) token maxPoints =
      (if token.boundTenantId.text = [] then .error .errUnauthorized
      else .ok ((tenantView token.boundTenantId.text writes).take maxPoints.toNat)) ∧
    ∀ edited, edited.length ≤ telemetryStoreMaxSeries → OthersEdited token.boundTenantId.text writes edited →
      telemetryStoreQuery (storeAfter edited) token maxPoints = telemetryStoreQuery (storeAfter writes) token maxPoints := by
  obtain ⟨ready, stored⟩ := storeAfter_store within
  have answer := telemetryStoreQuery_eq ready valid maxPoints
  rw [stored] at answer
  refine ⟨answer, ?_⟩
  intro edited withinToo edit
  obtain ⟨readyToo, storedToo⟩ := storeAfter_store withinToo
  rw [answer, telemetryStoreQuery_eq readyToo valid maxPoints, storedToo, edit.tenantView_eq]

def pointOf (tenantId : String) (timestampMs : UInt64) : TelemetryDataPoint :=
  { tenantId := strncpy 63 (asciiBytes tenantId), siteId := strncpy 63 (asciiBytes "s"), nodeId := strncpy 63 (asciiBytes "n")
    deviceClass := strncpy 63 [], metricId := strncpy 63 (asciiBytes "m"), domainProfileId := strncpy 63 []
    value := Binary32.zero false, timestampMs := timestampMs }

def tokenOf (tenantId : String) : TenantToken :=
  { tokenId := 1, boundTenantId := strncpy 63 (asciiBytes tenantId), valid := true }

theorem telemetry_tenant_isolation_two_tenants :
    telemetryStoreQuery (storeAfter [pointOf "a" 1, pointOf "b" 2, pointOf "a" 3]) (tokenOf "a") 1 = .ok [pointOf "a" 1] ∧
    telemetryStoreQuery (storeAfter [pointOf "b" 0, pointOf "a" 1, pointOf "a" 3]) (tokenOf "a") 1 =
      telemetryStoreQuery (storeAfter [pointOf "a" 1, pointOf "b" 2, pointOf "a" 3]) (tokenOf "a") 1 := by
  have isolated := telemetry_tenant_isolation [pointOf "a" 1, pointOf "b" 2, pointOf "a" 3] (by decide) (tokenOf "a") rfl 1
  have named : (tokenOf "a").boundTenantId.text ≠ [] := by
    rw [tokenOf, strncpy_text]
    decide
  have own (time : UInt64) : (pointOf "a" time).tenantId.text = (tokenOf "a").boundTenantId.text := rfl
  have other (time : UInt64) : (pointOf "b" time).tenantId.text ≠ (tokenOf "a").boundTenantId.text := by
    rw [pointOf, tokenOf, strncpy_text, strncpy_text]
    decide
  constructor
  · rw [isolated.1, if_neg named, tenantView_cons_own (own 1)]
    rfl
  · apply isolated.2 _ (by decide)
    exact .inserted (other 0) (.kept _ (.deleted (other 2) (.kept _ .done)))

/-- A point may carry an empty tenant id, and a token can be issued for it. -/
theorem unnamed_tenant_refused :
    (telemetryIssueTenantToken telemetryStoreInit []).2 = .ok (tokenOf "") ∧ (tokenOf "").valid = true ∧
    (pointOf "" 1).tenantId.text = (tokenOf "").boundTenantId.text ∧
    (storeAfter [pointOf "" 1]).store = [pointOf "" 1] ∧
    telemetryStoreQuery (storeAfter [pointOf "" 1]) (tokenOf "") 1 = .error .errUnauthorized := by
  obtain ⟨ready, stored⟩ := storeAfter_store (show [pointOf "" 1].length ≤ telemetryStoreMaxSeries by decide)
  have unnamed : (tokenOf "").boundTenantId.text = [] := by
    rw [tokenOf, strncpy_text]
    decide
  refine ⟨rfl, rfl, rfl, stored, ?_⟩
  rw [telemetryStoreQuery_eq ready rfl, if_pos unnamed]

end IotPlatform
