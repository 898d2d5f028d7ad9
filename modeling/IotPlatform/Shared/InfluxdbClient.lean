import IotPlatform.Cloud.TelemetryStore

/-!
# The InfluxDB client

`influxdb_client.c`: the HTTP requests made on behalf of a tenant's token. `encodeLine` stands for the line protocol of a
point, which the address of a request does not depend on; the transport is a function from the request to its success and
the response.
-/

namespace IotPlatform

abbrev influxdbMaxUrlLen : Nat := 256

abbrev influxdbMaxTokenLen : Nat := 128

abbrev influxdbMaxOrgLen : Nat := 64

def influxdbMaxBucketLen : Nat := 64

structure InfluxDBConfig where
  baseUrl : CArray influxdbMaxUrlLen
  apiToken : CArray influxdbMaxTokenLen
  org : CArray influxdbMaxOrgLen
  deriving DecidableEq

structure HttpRequest where
  url : List UInt8
  method : String
  headers : List (List UInt8)
  body : List UInt8
  deriving DecidableEq

inductive InfluxDBResult where
  | ok | errParamNull | errTransport | errBufferFull | errLineTooLong | errQueryFailed | errNotConfigured
  | errUnauthorized
  deriving DecidableEq, Repr

structure InfluxDBClient where
  config : InfluxDBConfig
  transport : Option (HttpRequest → Bool × List UInt8)
  initialised : Bool

/-- The request a call handed to the transport, its result, and the response it passed on. -/
structure InfluxDBOutcome where
  request : Option HttpRequest
  result : InfluxDBResult
  response : List UInt8
  deriving DecidableEq

def InfluxDBOutcome.refused (result : InfluxDBResult) : InfluxDBOutcome :=
  { request := none, result := result, response := [] }

def deriveBucket (tenantId : List UInt8) (bucketSize : Nat) : List UInt8 :=
  snprintf bucketSize (asciiBytes "telemetry-" ++ tenantId)

def validateToken (token : TenantToken) : Bool := token.valid && decide (token.boundTenantId.text ≠ [])

/-- An address that fits; `snprintf` reports the length of the whole text. -/
def printUrl (text : List UInt8) : Option (List UInt8) :=
  if 0 < text.length ∧ text.length < influxdbMaxUrlLen then some (snprintf influxdbMaxUrlLen text) else none

def makeWriteUrl (config : InfluxDBConfig) (token : TenantToken) : Option (List UInt8) :=
  if config.baseUrl.text = [] then none
  else
    let bucket := deriveBucket token.boundTenantId.text influxdbMaxBucketLen
    printUrl (config.baseUrl.text ++ asciiBytes "/api/v2/write?org=" ++ config.org.text ++ asciiBytes "&bucket=" ++
      bucket ++ asciiBytes "&precision=ns")

def makeAuthHeader (config : InfluxDBConfig) : List UInt8 :=
  snprintf (influxdbMaxTokenLen + 32) (asciiBytes "Authorization: Token " ++ config.apiToken.text)

def makeQueryUrl (config : InfluxDBConfig) : Option (List UInt8) :=
  if config.baseUrl.text = [] then none
  else printUrl (config.baseUrl.text ++ asciiBytes "/api/v2/query?org=" ++ config.org.text)

def influxdbWrite {Point : Type} (encodeLine : Point → List UInt8) (c : InfluxDBClient) (point : Point)
    (token : TenantToken) : InfluxDBOutcome :=
  match c.initialised, c.transport with
  | true, some httpRequest =>
    if !validateToken token then .refused .errUnauthorized
    else
      let line := encodeLine point
      if line.length = 0 then .refused .errLineTooLong
      else
        match makeWriteUrl c.config token with
        | none => .refused .errBufferFull
        | some url =>
          let request : HttpRequest :=
            { url := url, method := "POST"
              headers := [makeAuthHeader c.config, asciiBytes "Content-Type: text/plain; charset=utf-8"], body := line }
          { request := some request, result := if (httpRequest request).1 then .ok else .errTransport, response := [] }
  | _, _ => .refused .errNotConfigured

/-- `fluxQuery` are the bytes of a C string. -/
def influxdbQuery (c : InfluxDBClient) (fluxQuery : List UInt8) (token : TenantToken) : InfluxDBOutcome :=
  match c.initialised, c.transport with
  | true, some httpRequest =>
    if !validateToken token then .refused .errUnauthorized
    else
      match makeQueryUrl c.config with
      | none => .refused .errBufferFull
      | some url =>
        let request : HttpRequest :=
          { url := url, method := "POST"
            headers :=
              [makeAuthHeader c.config, asciiBytes "Content-Type: application/vnd.flux",
                asciiBytes "Accept: application/csv"]
            body := cString fluxQuery }
        let (ok, response) := httpRequest request
        { request := some request, result := if ok then .ok else .errQueryFailed, response := response }
  | _, _ => .refused .errNotConfigured

theorem printUrl_some {text url : List UInt8} (printed : printUrl text = some url) : url = text := by
  unfold printUrl at printed
  split at printed
  · rename_i fits
    rw [← Option.some.inj printed]
    exact snprintf_of_lt fits.2
  · cases printed

/-! ### The bucket of a write -/

/-- What stands in front of the bucket in an address made by `make_write_url`. -/
def writeUrlHead (config : InfluxDBConfig) : List UInt8 :=
  config.baseUrl.text ++ asciiBytes "/api/v2/write?org=" ++ config.org.text ++ asciiBytes "&bucket="

def writeUrlBucket (config : InfluxDBConfig) (url : List UInt8) : List UInt8 :=
  let tail := url.drop (writeUrlHead config).length
  tail.take (tail.length - (asciiBytes "&precision=ns").length)

theorem makeWriteUrl_bucket {config : InfluxDBConfig} {token : TenantToken} {url : List UInt8}
    (made : makeWriteUrl config token = some url) :
    writeUrlBucket config url = deriveBucket token.boundTenantId.text influxdbMaxBucketLen := by
  unfold makeWriteUrl at made
  split at made
  · cases made
  · rw [printUrl_some made, writeUrlBucket, writeUrlHead, List.append_assoc _ (deriveBucket _ _), List.drop_left,
      List.length_append, Nat.add_sub_cancel, List.take_left]

variable {Point : Type} {encodeLine : Point → List UInt8} {c : InfluxDBClient} {point : Point} {token : TenantToken}

def writeRequest (config : InfluxDBConfig) (url line : List UInt8) : HttpRequest :=
  { url := url, method := "POST"
    headers := [makeAuthHeader config, asciiBytes "Content-Type: text/plain; charset=utf-8"], body := line }

theorem influxdbWrite_request_iff {r : HttpRequest} : (influxdbWrite encodeLine c point token).request = some r ↔
    (c.initialised = true ∧ c.transport ≠ none ∧ validateToken token = true) ∧ encodeLine point ≠ [] ∧
      makeWriteUrl c.config token = some r.url ∧ r = writeRequest c.config r.url (encodeLine point) := by
  obtain ⟨config, transport, initialised⟩ := c
  unfold influxdbWrite
  cases initialised with
  | false => simp [InfluxDBOutcome.refused]
  | true =>
    cases transport with
    | none => simp [InfluxDBOutcome.refused]
    | some httpRequest =>
      cases validateToken token with
      | false => simp [InfluxDBOutcome.refused]
      | true =>
        cases line : encodeLine point with
        | nil => simp [InfluxDBOutcome.refused]
        | cons byte rest =>
          cases made : makeWriteUrl config token with
          | none => simp [InfluxDBOutcome.refused]
          | some url =>
            constructor
            · intro sent
              obtain rfl := Option.some.inj sent
              exact ⟨by simp, List.cons_ne_nil _ _, rfl, rfl⟩
            · rintro ⟨-, -, same, whole⟩
              rw [whole, ← Option.some.inj same]
              rfl

theorem influxdbWrite_request {r : HttpRequest} (sent : (influxdbWrite encodeLine c point token).request = some r) :
    makeWriteUrl c.config token = some r.url :=
  (influxdbWrite_request_iff.mp sent).2.2.1

/-- Ten bytes go to the prefix and one to the terminator. -/
theorem deriveBucket_eq_iff (tenantId tenantId' : List UInt8) :
    deriveBucket tenantId influxdbMaxBucketLen = deriveBucket tenantId' influxdbMaxBucketLen ↔
      tenantId.take 53 = tenantId'.take 53 := by
  have cut (tenantId : List UInt8) :
      deriveBucket tenantId influxdbMaxBucketLen = asciiBytes "telemetry-" ++ tenantId.take 53 := by
    rw [deriveBucket, snprintf, List.take_append, List.take_of_length_le (by decide)]
    rfl
  rw [cut, cut, List.append_cancel_left_eq]

/-- The writes of two tenants go to different buckets exactly when the first 53 bytes of their ids differ. -/
theorem tenant_buckets_exact {Point : Type} (encodeLine : Point → List UInt8) (c : InfluxDBClient) (point point' : Point)
    (token token' : TenantToken) (r r' : HttpRequest)
    (sent : (influxdbWrite encodeLine c point token).request = some r)
    (sent' : (influxdbWrite encodeLine c point' token').request = some r') :
    writeUrlBucket c.config r.url ≠ writeUrlBucket c.config r'.url ↔
      token.boundTenantId.text.take 53 ≠ token'.boundTenantId.text.take 53 := by
  rw [makeWriteUrl_bucket (influxdbWrite_request sent), makeWriteUrl_bucket (influxdbWrite_request sent'), Ne,
    deriveBucket_eq_iff]

/-- Tenants with names that fit never share a bucket. -/
theorem issued_buckets_apart {s s' : TelemetryStore} {tenantId tenantId' : List UInt8} {token token' : TenantToken}
    (issued : (telemetryIssueTenantToken s tenantId).2 = .ok token)
    (issued' : (telemetryIssueTenantToken s' tenantId').2 = .ok token')
    (short : (cString tenantId).length ≤ 53) (short' : (cString tenantId').length ≤ 53)
    (different : cString tenantId ≠ cString tenantId') :
    deriveBucket token.boundTenantId.text influxdbMaxBucketLen ≠
      deriveBucket token'.boundTenantId.text influxdbMaxBucketLen := by
  have whole {tenantId : List UInt8} (short : (cString tenantId).length ≤ 53) :
      ((cString tenantId).take (telemetryStoreMaxTagLen - 1)).take 53 = cString tenantId := by
    rw [List.take_take]
    exact List.take_of_length_le short
  rw [ne_eq, deriveBucket_eq_iff, (telemetryIssueTenantToken_token issued).2, (telemetryIssueTenantToken_token issued').2,
    whole short, whole short']
  exact different

def openClient : InfluxDBClient :=
  { config :=
      { baseUrl := strncpy (influxdbMaxUrlLen - 1) (asciiBytes "http://h")
        apiToken := strncpy (influxdbMaxTokenLen - 1) (asciiBytes "t"), org := strncpy (influxdbMaxOrgLen - 1) (asciiBytes "o") }
    transport := some fun _ => (true, [])
    initialised := true }

def openWrite (token : TenantToken) : Option HttpRequest := (influxdbWrite asciiBytes openClient "m v=1" token).request

theorem tenant_buckets_exact_short_ids :
    ∃ r r', openWrite (tokenOf "a") = some r ∧ openWrite (tokenOf "b") = some r' ∧
      writeUrlBucket openClient.config r.url ≠ writeUrlBucket openClient.config r'.url := by
  obtain ⟨r, sent⟩ := Option.isSome_iff_exists.mp (show (openWrite (tokenOf "a")).isSome = true by decide +kernel)
  obtain ⟨r', sent'⟩ := Option.isSome_iff_exists.mp (show (openWrite (tokenOf "b")).isSome = true by decide +kernel)
  refine ⟨r, r', sent, sent', ?_⟩
  exact (tenant_buckets_exact asciiBytes openClient "m v=1" "m v=1" (tokenOf "a") (tokenOf "b") r r' sent sent').mpr (by decide)

/-- An id of 54 bytes: an x 53 times and a last byte. -/
def longId (last : UInt8) : List UInt8 := List.replicate 53 120 ++ [last]

def longToken (last : UInt8) : TenantToken :=
  { tokenOf "" with boundTenantId := strncpy (telemetryStoreMaxTagLen - 1) (longId last) }

theorem long_tenants_share_bucket :
    (telemetryIssueTenantToken telemetryStoreInit (longId 97)).2 = .ok (longToken 97) ∧
    (telemetryIssueTenantToken telemetryStoreInit (longId 98)).2 = .ok (longToken 98) ∧
    (longToken 97).boundTenantId.text ≠ (longToken 98).boundTenantId.text ∧
    (openWrite (longToken 97)).map (fun r => writeUrlBucket openClient.config r.url) =
      some (asciiBytes "telemetry-" ++ List.replicate 53 120) ∧
    openWrite (longToken 98) = openWrite (longToken 97) :=
  ⟨rfl, rfl, by decide +kernel, by decide +kernel, by decide +kernel⟩

/-! ### The scope of a query -/

def InfluxDBConfig.QueryUrlFits (config : InfluxDBConfig) : Prop :=
  config.baseUrl.text ≠ [] ∧ config.baseUrl.text.length + 18 + config.org.text.length < influxdbMaxUrlLen

instance (config : InfluxDBConfig) : Decidable config.QueryUrlFits := inferInstanceAs (Decidable (_ ∧ _))

def InfluxDBClient.CanQuery (c : InfluxDBClient) : Prop :=
  c.initialised = true ∧ c.transport.isSome = true ∧ c.config.QueryUrlFits

instance (c : InfluxDBClient) : Decidable c.CanQuery := inferInstanceAs (Decidable (_ ∧ _))

def queryRequest (config : InfluxDBConfig) (fluxQuery : List UInt8) : HttpRequest :=
  { url := config.baseUrl.text ++ asciiBytes "/api/v2/query?org=" ++ config.org.text
    method := "POST"
    headers :=
      [makeAuthHeader config, asciiBytes "Content-Type: application/vnd.flux", asciiBytes "Accept: application/csv"]
    body := cString fluxQuery }

theorem makeQueryUrl_eq (config : InfluxDBConfig) :
    makeQueryUrl config = if config.QueryUrlFits then some (queryRequest config []).url else none := by
  have length : (config.baseUrl.text ++ asciiBytes "/api/v2/query?org=" ++ config.org.text).length =
      config.baseUrl.text.length + 18 + config.org.text.length := by
    rw [List.length_append, List.length_append]
    rfl
  unfold makeQueryUrl printUrl
  by_cases base : config.baseUrl.text = []
  · rw [if_pos base, if_neg fun fits => fits.1 base]
  · rw [if_neg base, length]
    by_cases short : config.baseUrl.text.length + 18 + config.org.text.length < influxdbMaxUrlLen
    · rw [if_pos ⟨by omega, short⟩, if_pos ⟨base, short⟩, snprintf_of_lt (length ▸ short), queryRequest]
    · rw [if_neg fun both => short both.2, if_neg fun fits => short fits.2]

/-- The token decides whether a query is sent, and nothing else about it. -/
theorem influxdbQuery_request (c : InfluxDBClient) (fluxQuery : List UInt8) (valid : validateToken token = true) :
    (influxdbQuery c fluxQuery token).request =
      if c.CanQuery then some (queryRequest c.config fluxQuery) else none := by
  obtain ⟨config, transport, initialised⟩ := c
  cases initialised with
  | false => simp [influxdbQuery, InfluxDBClient.CanQuery, InfluxDBOutcome.refused]
  | true =>
    cases transport with
    | none => simp [influxdbQuery, InfluxDBClient.CanQuery, InfluxDBOutcome.refused]
    | some httpRequest =>
      simp only [influxdbQuery, valid, makeQueryUrl_eq, InfluxDBClient.CanQuery, Bool.not_true, Bool.false_eq_true,
        if_false, Option.isSome_some, true_and]
      by_cases fits : config.QueryUrlFits
      · rw [if_pos fits, if_pos fits]
        rfl
      · rw [if_neg fits, if_neg fits]
        rfl

/-- Whatever the server reads for a request, a query with a token reads the bucket of the token's tenant only. -/
def QueriesScoped (reads : HttpRequest → List UInt8 → Prop) (c : InfluxDBClient) : Prop :=
  ∀ fluxQuery token r, validateToken token = true → (influxdbQuery c fluxQuery token).request = some r →
    ∀ bucket, reads r bucket → bucket = deriveBucket token.boundTenantId.text influxdbMaxBucketLen

/-- The requests of two tenants are never the same. -/
def RequestsApart (c : InfluxDBClient) : Prop :=
  ∀ fluxQuery token token' r r', validateToken token = true → validateToken token' = true →
    token.boundTenantId.text ≠ token'.boundTenantId.text →
    (influxdbQuery c fluxQuery token).request = some r → (influxdbQuery c fluxQuery token').request = some r' → r ≠ r'

/-- As the request does not say whose it is, it is scoped only if the server reads nothing for it. -/
theorem queriesScoped_iff (reads : HttpRequest → List UInt8 → Prop) (c : InfluxDBClient) :
    QueriesScoped reads c ↔ (c.CanQuery → ∀ fluxQuery bucket, ¬reads (queryRequest c.config fluxQuery) bucket) := by
  constructor
  · intro tenantOnly able fluxQuery bucket read
    have named (tenantId : String) (valid : validateToken (tokenOf tenantId) = true) :
        bucket = deriveBucket (tokenOf tenantId).boundTenantId.text influxdbMaxBucketLen :=
      tenantOnly fluxQuery _ _ valid ((influxdbQuery_request c fluxQuery valid).trans (if_pos able)) bucket read
    exact absurd ((named "a" (by decide)).symm.trans (named "b" (by decide))) (by decide)
  · intro silent fluxQuery token r valid sent bucket read
    rw [influxdbQuery_request c fluxQuery valid] at sent
    split at sent
    · rename_i able
      obtain rfl := Option.some.inj sent
      exact absurd read (silent able fluxQuery bucket)
    · cases sent

theorem requestsApart_iff (c : InfluxDBClient) : RequestsApart c ↔ ¬c.CanQuery := by
  constructor
  · intro apart able
    have sent (tenantId : String) (valid : validateToken (tokenOf tenantId) = true) :
        (influxdbQuery c [] (tokenOf tenantId)).request = some (queryRequest c.config []) :=
      (influxdbQuery_request c [] valid).trans (if_pos able)
    exact apart [] _ _ _ _ (by decide) (by decide) (by decide) (sent "a" (by decide)) (sent "b" (by decide)) rfl
  · intro unable fluxQuery token token' r r' valid _ _ sent _
    rw [influxdbQuery_request c fluxQuery valid, if_neg unable] at sent
    cases sent

/-- Queries are kept to a tenant only by a client that cannot send any. -/
theorem influxdb_query_scope_exact (reads : HttpRequest → List UInt8 → Prop) (c : InfluxDBClient) :
    QueriesScoped reads c ∧ RequestsApart c ↔ ¬c.CanQuery := by
  rw [requestsApart_iff]
  constructor
  · rintro ⟨_, unable⟩
    exact unable
  · intro unable
    exact ⟨(queriesScoped_iff reads c).mpr fun able => absurd able unable, unable⟩

/-- A query for another tenant's bucket goes out as that tenant's own would. -/
theorem foreign_bucket_queried :
    let fluxQuery := asciiBytes "from(bucket:\"telemetry-b\") |> range(start:-1h)"
    (influxdbQuery openClient fluxQuery (tokenOf "a")).request = some (queryRequest openClient.config fluxQuery) ∧
    (influxdbQuery openClient fluxQuery (tokenOf "b")).request = some (queryRequest openClient.config fluxQuery) ∧
    validateToken (tokenOf "a") = true ∧ validateToken (tokenOf "b") = true ∧
    (tokenOf "a").boundTenantId.text ≠ (tokenOf "b").boundTenantId.text := by decide +kernel

end IotPlatform
