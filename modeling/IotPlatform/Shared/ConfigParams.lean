import Mathlib.Data.List.Induction
import IotPlatform.Lib.Latest
import IotPlatform.Lib.Run
import IotPlatform.Shared.ConfigEngine

/-!
# The parameters of the configuration

A key is compared in full and stored cut to its array. The table is read here as a map from keys to values.
-/

namespace IotPlatform
open Run Latest Table

section Parameters

variable {F : Type}

/-- Into a buffer of `room + 1` bytes; on an error the buffer is not written. -/
def configGetParam (ctx : ConfigEngineContext F) (key : List UInt8) (room : Nat) :
    ConfigEngineResult × Option (CArray (room + 1)) :=
  if !ctx.initialized then (.errParamNull, none)
  else
    match ctx.params.find? (·.named key) with
    | some p => (.ok, some (strncpy room p.value.val.toList))
    | none => (.errNotFound, none)

/-- A call to `config_set_param`: its key and its value. -/
abbrev SetCall := List UInt8 × List UInt8

def setParamStep (ctx : ConfigEngineContext F) (call : SetCall) : ConfigEngineContext F × ConfigEngineResult :=
  configSetParam ctx call.1 call.2

def afterSets (F : Type) (calls : List SetCall) : ConfigEngineContext F := finalState setParamStep configEngineInit calls

/-- What an accepted call says: the key, and the value cut to its array. -/
def SetCall.event (call : SetCall) : List UInt8 × List UInt8 :=
  (cString call.1, (cString call.2).take (configValueMaxLen - 1))

/-- The calls that returned `CONFIG_OK`, in their order. -/
def acceptedSets (F : Type) (calls : List SetCall) : List (List UInt8 × List UInt8) :=
  (calls.zip (outputs setParamStep (configEngineInit : ConfigEngineContext F) calls)).filterMap fun (call, result) =>
    if result = .ok then some call.event else none

/-- A key whose last accepted value is `value` reads as `value`, a call with another key leaves it so, and no two parameters
have one key. -/
structure FormMap (F : Type) (calls : List SetCall) : Prop where
  latest_read : ∀ n key value, latest (acceptedSets F (calls.take n)) (cString key) = some value →
    ∀ room, configValueMaxLen - 1 ≤ room →
      ∃ buffer, configGetParam (afterSets F (calls.take n)) key room = (.ok, some buffer) ∧ buffer.text = value
  others_kept : ∀ n call, calls[n]? = some call → ∀ key, cString call.1 ≠ cString key → ∀ room,
    configGetParam (afterSets F (calls.take (n + 1))) key room = configGetParam (afterSets F (calls.take n)) key room
  distinct : ∀ n, ((afterSets F (calls.take n)).params.map fun p => p.key.text).Nodup

/-- The key fits its array, or the table is full. -/
def KeyFits (ctx : ConfigEngineContext F) (call : SetCall) : Prop :=
  (cString call.1).length < configKeyMaxLen ∨ configMaxParams ≤ ctx.params.length

/-- The parameter that is found for a key. -/
def ConfigParam.hasKey (text : List UInt8) (p : ConfigParam) : Bool := decide (p.key.text = text)

/-- The table holds what the events say. -/
structure ConfigEngineContext.Holds (ctx : ConfigEngineContext F) (events : List (List UInt8 × List UInt8)) : Prop where
  ready : ctx.initialized = true
  editable : ∀ p ∈ ctx.params, p.editable = true
  distinct : (ctx.params.map fun p => p.key.text).Nodup
  stored : ∀ text, (ctx.params.find? (ConfigParam.hasKey text)).map (fun p => p.value.text) = latest events text

variable {ctx : ConfigEngineContext F} {events : List (List UInt8 × List UInt8)} {key : List UInt8} {p : ConfigParam}

theorem ConfigParam.hasKey_iff {text : List UInt8} : p.hasKey text = true ↔ p.key.text = text := by
  rw [hasKey, decide_eq_true_eq]

theorem oneKey_hasKey : OneKey ConfigParam.hasKey := fun _ _ _ own other =>
  (ConfigParam.hasKey_iff.mp own).symm.trans (ConfigParam.hasKey_iff.mp other)

theorem named_eq_hasKey (key : List UInt8) : (ConfigParam.named key) = ConfigParam.hasKey (cString key) := rfl

@[simp] theorem ConfigParam.key_assign (value : List UInt8) (p : ConfigParam) : (p.assign value).key = p.key := by rw [assign]

@[simp] theorem ConfigParam.editable_assign (value : List UInt8) (p : ConfigParam) :
    (p.assign value).editable = p.editable := by rw [assign]

theorem ConfigParam.hasKey_assign (value text : List UInt8) (p : ConfigParam) :
    (p.assign value).hasKey text = p.hasKey text := by
  rw [hasKey, hasKey, key_assign]

theorem ConfigParam.assign_text (value : List UInt8) :
    (p.assign value).value.text = (cString value).take (configValueMaxLen - 1) := by
  rw [ConfigParam.assign, strncpy_text]

/-! ### One call -/

/-- No stored key is as long as its array. -/
theorem find?_long_key (params : List ConfigParam) {text : List UInt8} (long : configKeyMaxLen ≤ text.length) :
    params.find? (ConfigParam.hasKey text) = none := by
  rw [List.find?_eq_none]
  intro p _ own
  have short := p.key.length_text
  rw [ConfigParam.hasKey_iff.mp own] at short
  omega

theorem configSetParam_found (ready : ctx.initialized = true) (value : List UInt8)
    (found : ctx.params.find? (ConfigParam.hasKey (cString key)) = some p) (editable : p.editable = true) :
    configSetParam ctx key value = ({ ctx with
      params := updateFirst (ConfigParam.hasKey (cString key)) (ConfigParam.assign value) ctx.params }, .ok) := by
  rw [← named_eq_hasKey] at found ⊢
  simp [configSetParam, ready, found, editable]

def newParam (key value : List UInt8) : ConfigParam :=
  { key := strncpy (configKeyMaxLen - 1) key, value := strncpy (configValueMaxLen - 1) value, editable := true, active := true }

theorem configSetParam_fresh (ready : ctx.initialized = true) (value : List UInt8)
    (absent : ctx.params.find? (ConfigParam.hasKey (cString key)) = none) (room : ctx.params.length < configMaxParams) :
    configSetParam ctx key value = ({ ctx with params := ctx.params ++ [newParam key value] }, .ok) := by
  rw [← named_eq_hasKey] at absent
  simp [configSetParam, ready, absent, Nat.not_le.mpr room, newParam]

theorem configSetParam_full (ready : ctx.initialized = true) (value : List UInt8)
    (absent : ctx.params.find? (ConfigParam.hasKey (cString key)) = none) (full : configMaxParams ≤ ctx.params.length) :
    configSetParam ctx key value = (ctx, .errFull) := by
  rw [← named_eq_hasKey] at absent
  simp [configSetParam, ready, absent, full]

theorem newParam_text (value : List UInt8) (fits : (cString key).length < configKeyMaxLen) :
    (newParam key value).key.text = cString key := by
  rw [newParam, strncpy_text]
  exact List.take_of_length_le (Nat.le_pred_of_lt fits)

theorem ConfigEngineContext.Holds.assigned (holds : ctx.Holds events) (value : List UInt8)
    (found : ctx.params.find? (ConfigParam.hasKey (cString key)) = some p) :
    ({ ctx with params := updateFirst (ConfigParam.hasKey (cString key)) (ConfigParam.assign value) ctx.params } :
      ConfigEngineContext F).Holds (events ++ [SetCall.event (key, value)]) := by
  refine ⟨holds.ready, ?_, ?_, fun text => ?_⟩
  · exact forall_updateFirst holds.editable fun q editable => (q.editable_assign value).trans editable
  · have keys : (updateFirst (ConfigParam.hasKey (cString key)) (ConfigParam.assign value) ctx.params).map
        (fun p => p.key.text) = ctx.params.map fun p => p.key.text :=
      map_updateFirst fun q => by rw [q.key_assign]
    show ((updateFirst (ConfigParam.hasKey (cString key)) (ConfigParam.assign value) ctx.params).map
      fun p => p.key.text).Nodup
    rw [keys]
    exact holds.distinct
  · show ((updateFirst _ _ ctx.params).find? (ConfigParam.hasKey text)).map (fun p => p.value.text) = _
    rw [SetCall.event, latest_concat, find?_updateFirst_key oneKey_hasKey (ConfigParam.hasKey_assign value), found]
    split
    · rw [Option.map_some, Option.map_some, ConfigParam.assign_text]
    · exact holds.stored text

theorem ConfigEngineContext.Holds.added (holds : ctx.Holds events) (value : List UInt8)
    (absent : ctx.params.find? (ConfigParam.hasKey (cString key)) = none) (fits : (cString key).length < configKeyMaxLen) :
    ({ ctx with params := ctx.params ++ [newParam key value] } : ConfigEngineContext F).Holds
      (events ++ [SetCall.event (key, value)]) := by
  have text := newParam_text value fits
  refine ⟨holds.ready, fun q member => ?_, ?_, fun other => ?_⟩
  · rcases List.mem_append.mp member with old | new
    · exact holds.editable q old
    · rw [List.mem_singleton.mp new]
      rfl
  · show ((ctx.params ++ [newParam key value]).map fun p => p.key.text).Nodup
    refine Registry.distinct_concat ?_ holds.distinct
    intro member
    obtain ⟨q, stored, same⟩ := List.mem_map.mp member
    exact List.find?_eq_none.mp absent q stored (ConfigParam.hasKey_iff.mpr (same.trans text))
  · show ((ctx.params ++ [newParam key value]).find? (ConfigParam.hasKey other)).map (fun p => p.value.text) = _
    rw [SetCall.event, latest_concat, find?_concat_key oneKey_hasKey (ConfigParam.hasKey_iff.mpr text) absent]
    split
    · rw [Option.map_some, newParam, strncpy_text]
    · exact holds.stored other

theorem ConfigEngineContext.Holds.setParam (holds : ctx.Holds events) (call : SetCall) (fits : KeyFits ctx call) :
    (setParamStep ctx call).1.Holds
      (events ++ if (setParamStep ctx call).2 = .ok then [call.event] else []) := by
  obtain ⟨key, value⟩ := call
  cases found : ctx.params.find? (ConfigParam.hasKey (cString key)) with
  | some p =>
    rw [setParamStep, configSetParam_found holds.ready value found (holds.editable p (List.mem_of_find?_eq_some found))]
    exact holds.assigned value found
  | none =>
    rcases Nat.lt_or_ge ctx.params.length configMaxParams with room | full
    · have short := fits.resolve_right (Nat.not_le.mpr room)
      rw [setParamStep, configSetParam_fresh holds.ready value found room]
      exact holds.added value found short
    · rw [setParamStep, configSetParam_full holds.ready value found full]
      simpa using holds

/-! ### Reading -/

theorem configGetParam_eq (ready : ctx.initialized = true) (key : List UInt8) (room : Nat) :
    configGetParam ctx key room =
      match (ctx.params.find? (ConfigParam.hasKey (cString key))).map (fun p => p.value.text) with
      | some text => (.ok, some (strncpy room text))
      | none => (.errNotFound, none) := by
  rw [configGetParam, ready, ← named_eq_hasKey]
  cases ctx.params.find? (ConfigParam.named key) with
  | none => rfl
  | some p =>
    show (ConfigEngineResult.ok, some (strncpy room p.value.val.toList)) = (.ok, some (strncpy room p.value.text))
    rw [CArray.text, strncpy_cString]

/-! ### Runs -/

theorem acceptedSets_concat (calls : List SetCall) (call : SetCall) :
    acceptedSets F (calls ++ [call]) =
      acceptedSets F calls ++ if (setParamStep (afterSets F calls) call).2 = .ok then [call.event] else [] := by
  rw [acceptedSets, outputs_concat, List.zip_append (length_outputs calls).symm, List.filterMap_append, acceptedSets]
  congr 1
  show [(call, (setParamStep (afterSets F calls) call).2)].filterMap _ = _
  by_cases accepted : (setParamStep (afterSets F calls) call).2 = .ok
  · simp [accepted]
  · simp [accepted]

theorem holds_of_eachStep (calls : List SetCall)
    (each : EachStep KeyFits setParamStep (configEngineInit : ConfigEngineContext F) calls) :
    (afterSets F calls).Holds (acceptedSets F calls) := by
  induction calls using List.reverseRecOn with
  | nil => exact ⟨rfl, fun _ member => absurd member List.not_mem_nil, List.nodup_nil, fun _ => rfl⟩
  | append_singleton calls call ih =>
    obtain ⟨before, now⟩ := eachStep_append.mp each
    rw [afterSets, finalState_concat, acceptedSets_concat]
    exact (ih before).setParam call now.1

theorem afterSets_succ {calls : List SetCall} {n : Nat} {call : SetCall} (at_n : calls[n]? = some call) :
    afterSets F (calls.take (n + 1)) = (setParamStep (afterSets F (calls.take n)) call).1 := by
  rw [List.take_add_one, at_n, Option.toList_some, afterSets, finalState_concat, afterSets]

theorem acceptedSets_succ {calls : List SetCall} {n : Nat} {call : SetCall} (at_n : calls[n]? = some call) :
    acceptedSets F (calls.take (n + 1)) = acceptedSets F (calls.take n) ++
      if (setParamStep (afterSets F (calls.take n)) call).2 = .ok then [call.event] else [] := by
  rw [List.take_add_one, at_n, Option.toList_some, acceptedSets_concat]

/-- An accepted key that is longer than any stored one cannot be read back. -/
theorem keyFits_of_formMap {calls : List SetCall} (map : FormMap F calls) {n : Nat} {call : SetCall}
    (at_n : calls[n]? = some call) (ready : (afterSets F (calls.take n)).initialized = true) :
    KeyFits (afterSets F (calls.take n)) call := by
  rcases Nat.lt_or_ge (cString call.1).length configKeyMaxLen with short | long
  · exact .inl short
  · refine .inr (Nat.le_of_not_lt fun room => ?_)
    have accepted : setParamStep (afterSets F (calls.take n)) call =
        ({ afterSets F (calls.take n) with params := (afterSets F (calls.take n)).params ++ [newParam call.1 call.2] }, .ok) :=
      configSetParam_fresh ready call.2 (find?_long_key _ long) room
    have last : latest (acceptedSets F (calls.take (n + 1))) (cString call.1) = some call.event.2 := by
      rw [acceptedSets_succ at_n, accepted, if_pos rfl, SetCall.event, latest_concat, if_pos rfl]
    obtain ⟨buffer, read, -⟩ := map.latest_read (n + 1) call.1 _ last (configValueMaxLen - 1) (Nat.le_refl _)
    have initialized : (afterSets F (calls.take (n + 1))).initialized = true := by
      rw [afterSets_succ at_n, accepted]
      exact ready
    rw [configGetParam_eq initialized, find?_long_key _ long] at read
    cases read

theorem afterSets_initialized (calls : List SetCall) : (afterSets F calls).initialized = true := by
  apply finalState_invariant (P := fun ctx : ConfigEngineContext F => ctx.initialized = true) rfl
  intro ctx call ready
  obtain ⟨params, frame⟩ := configSetParam_frame ctx call.1 call.2
  rw [setParamStep, frame]
  exact ready

theorem ConfigEngineContext.Holds.read (holds : ctx.Holds events) {value : List UInt8}
    (last : latest events (cString key) = some value) {room : Nat} (large : configValueMaxLen - 1 ≤ room) :
    ∃ buffer, configGetParam ctx key room = (.ok, some buffer) ∧ buffer.text = value := by
  have stored := holds.stored (cString key)
  rw [last] at stored
  obtain ⟨p, found, text⟩ := Option.map_eq_some_iff.mp stored
  refine ⟨strncpy room value, by rw [configGetParam_eq holds.ready, stored], ?_⟩
  have short := p.value.length_text
  rw [strncpy_text, ← text, CArray.text, cString_cString]
  exact List.take_of_length_le (Nat.le_trans (Nat.le_pred_of_lt short) large)

/-- In every run of calls to `config_set_param` the parameters are a map, exactly when each call gives a key that fits or
comes when the table is full. -/
theorem parameters_form_map_exact (F : Type) (calls : List SetCall) :
    FormMap F calls ↔ EachStep KeyFits setParamStep (configEngineInit : ConfigEngineContext F) calls := by
  constructor
  · intro map
    rw [eachStep_iff]
    intro n call at_n
    exact keyFits_of_formMap map at_n (afterSets_initialized _)
  · intro each
    have holds : ∀ n, (afterSets F (calls.take n)).Holds (acceptedSets F (calls.take n)) := by
      intro n
      rw [← List.take_append_drop n calls] at each
      exact holds_of_eachStep _ (eachStep_append.mp each).1
    refine ⟨fun n key value last room large => (holds n).read last large, fun n call at_n key other room => ?_,
      fun n => (holds n).distinct⟩
    have same : latest (acceptedSets F (calls.take (n + 1))) (cString key) =
        latest (acceptedSets F (calls.take n)) (cString key) := by
      rw [acceptedSets_succ at_n]
      split
      · rw [SetCall.event, latest_concat, if_neg other]
      · rw [List.append_nil]
    rw [configGetParam_eq (holds (n + 1)).ready, configGetParam_eq (holds n).ready, (holds (n + 1)).stored,
      (holds n).stored, same]

end Parameters

/-- A key of 32 characters set twice: two parameters with one key, and neither is found. -/
theorem long_key_stored_twice :
    let key := List.replicate 32 107
    let calls : List SetCall := [(key, [49]), (key, [50])]
    outputs setParamStep (configEngineInit : ConfigEngineContext Unit) calls = [.ok, .ok] ∧
      (afterSets Unit calls).params.map (fun p => p.key.text) = [List.replicate 31 107, List.replicate 31 107] ∧
      configGetParam (afterSets Unit calls) key 63 = (.errNotFound, none) ∧ ¬FormMap Unit calls := by
  intro key calls
  have keys : (afterSets Unit calls).params.map (fun p => p.key.text) = [List.replicate 31 107, List.replicate 31 107] := by
    decide +kernel
  refine ⟨by decide +kernel, keys, by decide +kernel, fun map => ?_⟩
  have distinct := map.distinct 2
  rw [show calls.take 2 = calls from rfl, keys] at distinct
  exact absurd distinct (by decide)

end IotPlatform
