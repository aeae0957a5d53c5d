import FrametimeCfg.Windows.RegistryRestore

/-!
# When a captured registry value comes back

The reader that a capture uses takes every failure to open a key and every
failure of the first query for a missing value, and so does it with each type it
does not know; of a longer number it keeps four bytes, and of a text the part
before its first zero.  The record then says that there was no value, or holds
another one, and the restore deletes or replaces what the user had.

Where the key and the value were found as they are and the value is one of the
three types in its stored form, the restore gives it back.
-/

namespace FrametimeCfg.Verified.RegistryInverse

open FrametimeCfg.Domain
open FrametimeCfg.Lib.Checks
open FrametimeCfg.Lib.Effect
open FrametimeCfg.Lib.OrderedMap
open FrametimeCfg.Lib.Text
open FrametimeCfg.Lib.Wide
open FrametimeCfg.Windows

/-! ## Calls and their failures -/

/-- The failure of the call after `n` others. -/
def failureAt (s : RegistryHost) (n : Nat) : Option Failure := (s.failures[n]?).join

/-- The host after one answer. -/
def next (s : RegistryHost) : RegistryHost := { s with failures := s.failures.tail }

section

variable {α β : Type} {s t : RegistryHost}

@[simp] theorem next_keys (s : RegistryHost) : (next s).keys = s.keys := rfl

@[simp] theorem failureAt_next (s : RegistryHost) (n : Nat) :
    failureAt (next s) n = failureAt s (n + 1) := by
  simp [failureAt, next]

/-- One call: its failure, or what it does by itself. -/
theorem registryCall_apply (natural : Prog RegistryHost UInt32 α) (s : RegistryHost) :
    registryCall natural s = match failureAt s 0 with
      | some failure => (.error failure.code, next s)
      | none => natural (next s) := by
  obtain ⟨keys, failures⟩ := s
  match failures with
  | [] => rfl
  | none :: failures => rfl
  | some failure :: failures => rfl

/-- A call that nothing interferes with. -/
theorem registryCall_free {natural : Prog RegistryHost UInt32 α} (h : s.failures = []) :
    registryCall natural s = natural s := by
  unfold registryCall
  rw [h]

/-- The program keeps the values, and the absence of failures. -/
def Quiet {ε : Type} (m : Prog RegistryHost ε α) : Prop :=
  ∀ s r t, m s = (r, t) → t.keys = s.keys ∧ (s.failures = [] → t.failures = [])

variable {ε ε' : Type}

theorem quiet_ofExcept (r : Except ε α) : Quiet (ofExcept r : Prog RegistryHost ε α) := by
  intro s r' t h
  obtain ⟨-, rfl⟩ := Prod.mk.inj h
  exact ⟨rfl, id⟩

theorem quiet_pure (a : α) : Quiet (pure a : Prog RegistryHost ε α) :=
  quiet_ofExcept (.ok a)

theorem quiet_raise (e : ε) : Quiet (raise e : Prog RegistryHost ε α) :=
  quiet_ofExcept (.error e)

theorem Quiet.bind {m : Prog RegistryHost ε α} {k : α → Prog RegistryHost ε β}
    (hm : Quiet m) (hk : ∀ a, Quiet (k a)) : Quiet (m >>= k) := by
  intro s r t h
  rcases bind_cases h with ⟨e, hfirst, -⟩ | ⟨a, s₁, hfirst, hrest⟩
  · exact hm s _ t hfirst
  · obtain ⟨hkeys, hfailures⟩ := hm s _ s₁ hfirst
    obtain ⟨hkeys', hfailures'⟩ := hk a s₁ r t hrest
    exact ⟨hkeys'.trans hkeys, fun hnone => hfailures' (hfailures hnone)⟩

theorem Quiet.attempt {m : Prog RegistryHost ε α} (hm : Quiet m) :
    Quiet (attempt m : Prog RegistryHost ε' (Except ε α)) := by
  intro s r t h
  exact hm s _ t (congrArg (Prod.mk (m s).1) (Prod.mk.inj h).2)

theorem Quiet.relabel {m : Prog RegistryHost ε α} (hm : Quiet m) (f : ε → ε') :
    Quiet (relabel f m) := by
  intro s r t h
  rw [Lib.Effect.relabel] at h
  rcases hrun : m s with ⟨r', t'⟩
  rw [hrun] at h
  have ht : t' = t := by
    cases r' with
    | ok a => exact (Prod.mk.inj h).2
    | error e => exact (Prod.mk.inj h).2
  exact hm s r' t (ht ▸ hrun)

/-- A call that changes nothing by itself. -/
theorem quiet_registryCall {natural : Prog RegistryHost UInt32 α} (h : Quiet natural) :
    Quiet (registryCall natural) := by
  have hnext : ∀ s : RegistryHost, s.failures = [] → (next s).failures = [] :=
    fun s hnone => by simp [next, hnone]
  intro s r t hrun
  rw [registryCall_apply] at hrun
  cases hfailure : failureAt s 0 with
  | some failure =>
      rw [hfailure] at hrun
      obtain ⟨-, rfl⟩ := Prod.mk.inj hrun
      exact ⟨rfl, hnext s⟩
  | none =>
      rw [hfailure] at hrun
      obtain ⟨hkeys, hfailures⟩ := h _ _ _ hrun
      exact ⟨hkeys, fun hnone => hfailures (hnext s hnone)⟩

theorem quiet_regOpenKey (hive : Hive) (key : String) : Quiet (regOpenKey hive key) := by
  refine quiet_registryCall fun s r t h => ?_
  split at h <;> obtain ⟨-, rfl⟩ := Prod.mk.inj h <;> exact ⟨rfl, id⟩

theorem quiet_regQueryValue (hive : Hive) (key name : String) :
    Quiet (regQueryValue hive key name) := by
  refine quiet_registryCall fun s r t h => ?_
  split at h <;> obtain ⟨-, rfl⟩ := Prod.mk.inj h <;> exact ⟨rfl, id⟩

end

/-! ## Reading -/

section

variable {s t : RegistryHost} {change : RegistryChange}

/-- Every text of a registry error has a `2` in it: that of `Win32`. -/
theorem two_mem_win32Error (code : UInt32) : '2' ∈ (win32Error code).toList := by
  unfold win32Error
  rw [String.toList_append]
  exact List.mem_append_left _ (by decide)

/-- The answer of the reader. -/
def readOutcome (s : RegistryHost) (change : RegistryChange) :
    Except String (Option RegValue) :=
  match failureAt s 0, s.keys change.hive change.key with
  | some _, _ | none, none => .ok none
  | none, some values =>
      match failureAt s 1, values change.name with
      | some _, _ | none, none => .ok none
      | none, some data =>
          match failureAt s 2 with
          | some failure => .error (win32Error failure.code)
          | none => valueOf data

theorem regOpenKey_apply (hive : Hive) (key : String) (s : RegistryHost) :
    regOpenKey hive key s = match failureAt s 0, s.keys hive key with
      | some failure, _ => (.error failure.code, next s)
      | none, some _ => (.ok (), next s)
      | none, none => (.error ERROR_FILE_NOT_FOUND, next s) := by
  refine (registryCall_apply _ s).trans ?_
  cases failureAt s 0 with
  | some failure => rfl
  | none =>
      cases hkey : s.keys hive key with
      | none => simp [hkey]
      | some values => simp [hkey]

theorem regQueryValue_apply (hive : Hive) (key name : String) (s : RegistryHost) :
    regQueryValue hive key name s = match failureAt s 0, s.value hive key name with
      | some failure, _ => (.error failure.code, next s)
      | none, some data => (.ok data, next s)
      | none, none => (.error ERROR_FILE_NOT_FOUND, next s) := by
  refine (registryCall_apply _ s).trans ?_
  have hvalue : (next s).value hive key name = s.value hive key name := rfl
  cases failureAt s 0 with
  | some failure => rfl
  | none =>
      cases hdata : s.value hive key name with
      | none => simp [hvalue, hdata]
      | some data => simp [hvalue, hdata]

theorem readOpened_apply (s : RegistryHost) (change : RegistryChange)
    {values : String → Option RegData} (hkey : s.keys change.hive change.key = some values) :
    ∃ t, readOpened change s =
      (match failureAt s 0, values change.name with
        | some _, _ | none, none => .ok none
        | none, some data =>
            match failureAt s 1 with
            | some failure => .error (win32Error failure.code)
            | none => valueOf data, t) := by
  have hvalue : s.value change.hive change.key change.name = values change.name := by
    simp [RegistryHost.value, hkey]
  have hvalue' : (next s).value change.hive change.key change.name = values change.name :=
    hvalue
  have hfirst := regQueryValue_apply change.hive change.key change.name s
  have hsecond := regQueryValue_apply change.hive change.key change.name (next s)
  rw [hvalue] at hfirst
  rw [hvalue', failureAt_next] at hsecond
  unfold readOpened
  cases hfailure : failureAt s 0 with
  | some failure =>
      rw [hfailure] at hfirst
      rw [bind_apply_ok (attempt_eq_ok.mpr hfirst)]
      exact ⟨next s, rfl⟩
  | none =>
      rw [hfailure] at hfirst
      cases hdata : values change.name with
      | none =>
          rw [hdata] at hfirst
          rw [bind_apply_ok (attempt_eq_ok.mpr hfirst)]
          exact ⟨next s, rfl⟩
      | some data =>
          rw [hdata] at hfirst hsecond
          refine ⟨next (next s), ?_⟩
          rw [bind_apply_ok (attempt_eq_ok.mpr hfirst)]
          show (relabel win32Error (regQueryValue change.hive change.key change.name) >>=
            fun data => ofExcept (valueOf data)) (next s) = _
          rw [bind_apply, relabel, hsecond]
          cases failureAt s 1 with
          | some failure => rfl
          | none => rfl

/-- **The reader** answers as `readOutcome` says. -/
theorem registryRead_apply (s : RegistryHost) (change : RegistryChange) :
    ∃ t, registryRead change s = (readOutcome s change, t) := by
  have hopen := regOpenKey_apply change.hive change.key s
  have hmissing : ∀ code, regOpenKey change.hive change.key s = (.error code, next s) →
      registryRead change s = (.ok none, next s) := by
    intro code hcode
    have hrelabel : registryOpen change s = (.error (win32Error code), next s) := by
      rw [registryOpen, relabel, hcode]
    unfold registryRead
    rw [bind_apply_ok (attempt_eq_ok.mpr hrelabel)]
    show (if '2' ∈ (win32Error code).toList then pure none else raise (win32Error code) :
      Prog RegistryHost String (Option RegValue)) (next s) = _
    rw [if_pos (two_mem_win32Error code)]
    rfl
  unfold readOutcome
  cases hfailure : failureAt s 0 with
  | some failure =>
      rw [hfailure] at hopen
      exact ⟨next s, hmissing _ hopen⟩
  | none =>
      rw [hfailure] at hopen
      cases hkey : s.keys change.hive change.key with
      | none =>
          rw [hkey] at hopen
          exact ⟨next s, hmissing _ hopen⟩
      | some values =>
          rw [hkey] at hopen
          have hopened : registryOpen change s = (.ok (), next s) :=
            relabel_eq_ok.mpr hopen
          obtain ⟨t, hread⟩ := readOpened_apply (next s) change hkey
          refine ⟨t, ?_⟩
          unfold registryRead
          rw [bind_apply_ok (attempt_eq_ok.mpr hopened)]
          simpa using hread

theorem quiet_registryRead (change : RegistryChange) : Quiet (registryRead change) := by
  refine ((quiet_regOpenKey _ _).relabel _).attempt.bind fun opened => ?_
  cases opened with
  | ok _ =>
      refine (quiet_regQueryValue _ _ _).attempt.bind fun first => ?_
      cases first with
      | error _ => exact quiet_pure none
      | ok _ => exact ((quiet_regQueryValue _ _ _).relabel _).bind fun _ => quiet_ofExcept _
  | error error =>
      show Quiet (if '2' ∈ error.toList then pure none else raise error)
      split
      · exact quiet_pure none
      · exact quiet_raise error

/-- The answer to an error code, where only one means that there is nothing. -/
private theorem quiet_exactCode (code : UInt32) :
    Quiet (if code = ERROR_FILE_NOT_FOUND then pure none else raise (win32Error code) :
      Prog RegistryHost String (Option RegValue)) := by
  split
  · exact quiet_pure none
  · exact quiet_raise _

theorem quiet_registryReadExact (change : RegistryChange) :
    Quiet (registryReadExact change) := by
  refine (quiet_regOpenKey _ _).attempt.bind fun opened => ?_
  cases opened with
  | error code => exact quiet_exactCode code
  | ok _ =>
      refine (quiet_regQueryValue _ _ _).attempt.bind fun first => ?_
      cases first with
      | error code => exact quiet_exactCode code
      | ok _ => exact ((quiet_regQueryValue _ _ _).relabel _).bind fun _ => quiet_ofExcept _

end

/-! ## Writing and deleting -/

section

variable {s t : RegistryHost} {change : RegistryChange} {hive : Hive} {key name : String}

/-- A call that returned did what it does by itself. -/
theorem registryCall_returned {α : Type} {natural : Prog RegistryHost UInt32 α} {a : α}
    (h : registryCall natural s = (.ok a, t)) :
    failureAt s 0 = none ∧ natural (next s) = (.ok a, t) := by
  rw [registryCall_apply] at h
  cases hfailure : failureAt s 0 with
  | some failure =>
      rw [hfailure] at h
      cases (Prod.mk.inj h).1
  | none =>
      rw [hfailure] at h
      exact ⟨rfl, h⟩

theorem registryWrite_returned (h : registryWrite change s = (.ok (), t)) :
    t.value change.hive change.key change.name = some change.value.data := by
  obtain ⟨_, s₁, -, hset⟩ := bind_eq_ok h
  obtain ⟨-, hset⟩ := registryCall_returned (relabel_eq_ok.mp hset)
  obtain ⟨-, rfl⟩ := Prod.mk.inj hset
  simp

theorem registryDelete_returned (h : registryDelete hive key name s = (.ok (), t)) :
    t.value hive key name = none := by
  obtain ⟨_, s₁, -, hdelete⟩ := bind_eq_ok h
  obtain ⟨-, hdelete⟩ := registryCall_returned (relabel_eq_ok.mp hdelete)
  cases hvalue : (next s₁).value hive key name with
  | none =>
      rw [hvalue] at hdelete
      cases (Prod.mk.inj hdelete).1
  | some data =>
      rw [hvalue] at hdelete
      obtain ⟨-, rfl⟩ := Prod.mk.inj hdelete
      simp

/-- Without failures a write returns. -/
theorem registryWrite_free (change : RegistryChange) (h : s.failures = []) :
    ∃ t, registryWrite change s = (.ok (), t) ∧ t.failures = [] := by
  have hcreate : regCreateKey change.hive change.key s = (.ok (), s.withValues change.hive
      change.key ((s.keys change.hive change.key).getD fun _ => none)) :=
    registryCall_free h
  have hcreated : (s.withValues change.hive change.key
      ((s.keys change.hive change.key).getD fun _ => none)).failures = [] := h
  refine ⟨((s.withValues change.hive change.key ((s.keys change.hive change.key).getD
    fun _ => none)).withValue change.hive change.key change.name (some change.value.data)),
    ?_, h⟩
  unfold registryWrite
  rw [bind_apply_ok (relabel_eq_ok.mpr hcreate)]
  exact relabel_eq_ok.mpr (registryCall_free hcreated)

/-- Without failures a value that exists is deleted. -/
theorem registryDelete_free (h : s.failures = []) {data : RegData}
    (hvalue : s.value hive key name = some data) :
    registryDelete hive key name s = (.ok (), s.withValue hive key name none) := by
  have hopen : regOpenKey hive key s = (.ok (), s) := by
    refine (registryCall_free h).trans ?_
    have hkey : (s.keys hive key).isSome = true := by
      cases hkey : s.keys hive key with
      | none => simp [RegistryHost.value, hkey] at hvalue
      | some values => rfl
    exact if_pos hkey
  have hdelete : regDeleteValue hive key name s = (.ok (), s.withValue hive key name none) := by
    refine (registryCall_free h).trans ?_
    rw [hvalue]
  unfold registryDelete
  rw [bind_apply_ok (relabel_eq_ok.mpr hopen)]
  exact relabel_eq_ok.mpr hdelete

end

/-! ## Values and their stored form -/

/-- A text without the zero character, which ends a stored text. -/
def Plain : RegValue → Prop
  | .string text => '\x00' ∉ text.toList
  | .dword _ | .binary _ => True

/-- The stored form of a value that the adapter knows. -/
def Lossless (data : RegData) : Prop := ∃ value, Plain value ∧ value.data = data

section

variable {value : RegValue} {data : RegData}

theorem leBytes_dword (value : UInt32) :
    UInt32.ofNat (leValue (leBytes 4 value.toNat)) = value := by
  have hlt : value.toNat < 256 ^ 4 := value.toNat_lt
  rw [leValue_leBytes, Nat.mod_eq_of_lt hlt, UInt32.ofNat_toNat]

theorem readString_wideBytes {text : String} (h : '\x00' ∉ text.toList) :
    readString (wideBytes text.toList) = .ok text := by
  unfold readString
  rw [readText_wideBytes h]
  show Except.ok (String.ofList text.toList) = Except.ok text
  rw [String.ofList_toList]

theorem valueOf_data (h : Plain value) : valueOf value.data = .ok (some value) := by
  cases value with
  | dword n =>
      have hlength : 4 ≤ (leBytes 4 n.toNat).length := by rw [leBytes_length]
      have htake : (leBytes 4 n.toNat).take 4 = leBytes 4 n.toNat :=
        List.take_of_length_le (by rw [leBytes_length])
      show (if REG_DWORD = REG_DWORD ∧ 4 ≤ (leBytes 4 n.toNat).length then
        Except.ok (some (RegValue.dword
          (UInt32.ofNat (leValue ((leBytes 4 n.toNat).take 4))))) else _) = _
      rw [if_pos ⟨rfl, hlength⟩, htake, leBytes_dword]
  | string text =>
      show (readString (wideBytes text.toList)).map _ = _
      rw [readString_wideBytes h]
      rfl
  | binary bytes => rfl

theorem valueOfExact_data (h : Plain value) : valueOfExact value.data = .ok (some value) := by
  cases value with
  | dword n =>
      show (if REG_DWORD = REG_DWORD ∧ (leBytes 4 n.toNat).length = 4 then
        Except.ok (some (RegValue.dword (UInt32.ofNat (leValue (leBytes 4 n.toNat)))))
        else _) = _
      rw [if_pos ⟨rfl, leBytes_length 4 _⟩, leBytes_dword]
  | string text =>
      have heven : (wideBytes text.toList).length % 2 = 0 := by
        rw [wideBytes, bytesOfUnits_length]
        omega
      show (if REG_SZ = REG_SZ ∧ (wideBytes text.toList).length % 2 = 0 then
        (readString (wideBytes text.toList)).map _ else _) = _
      rw [if_pos ⟨rfl, heven⟩, readString_wideBytes h]
      rfl
  | binary bytes => rfl

/-- What was read has a stored form. -/
theorem plain_of_valueOf (h : valueOf data = .ok (some value)) : Plain value := by
  unfold valueOf at h
  split at h
  · cases h
    trivial
  · split at h
    · unfold readString at h
      cases htext : readText data.bytes with
      | none =>
          rw [htext] at h
          cases h
      | some text =>
          rw [htext] at h
          cases h
          show '\x00' ∉ (String.ofList text).toList
          rw [String.toList_ofList]
          exact readText_ne_zero htext
    · split at h
      · cases h
        trivial
      · cases h

/-- Only a text that is not UTF-16 is refused. -/
theorem valueOf_eq_error {e : String} (h : valueOf data = .error e) :
    data.kind = REG_SZ ∧ readText data.bytes = none := by
  unfold valueOf at h
  split at h
  · cases h
  · split at h
    next hkind =>
      refine ⟨hkind, ?_⟩
      unfold readString at h
      cases htext : readText data.bytes with
      | none => rfl
      | some text =>
          rw [htext] at h
          cases h
    next =>
      split at h <;> cases h

theorem valueOf_corrupt (hkind : data.kind = REG_SZ) (htext : readText data.bytes = none) :
    valueOf data = .error utf16Error := by
  unfold valueOf readString
  rw [hkind, htext]
  rfl

theorem recordedBytes_map (bytes : List UInt8) :
    recordedBytes (bytes.map fun byte => .number (.unsigned byte.toUInt64)) = .ok bytes := by
  induction bytes with
  | nil => rfl
  | cons byte bytes ih =>
      have hlt : byte.toUInt64.toNat < 256 := by
        rw [UInt8.toNat_toUInt64]
        exact byte.toNat_lt
      have hbyte : byte.toUInt64.toUInt8 = byte := by simp
      show (do
        reject (256 ≤ byte.toUInt64.toNat) "registry binary byte exceeds u8"
        let rest ← recordedBytes (bytes.map fun byte => .number (.unsigned byte.toUInt64))
        return byte.toUInt64.toUInt8 :: rest) = Except.ok (byte :: bytes)
      rw [ih, hbyte, decide_eq_false (Nat.not_le.mpr hlt)]
      rfl

/-- The record of a value holds it. -/
theorem restoredValue_recorded (value : RegValue) : ∃ originalType,
    (recordedValue (some value)).2.1 = some originalType ∧
      restoredValue (recordedValue (some value)).1 originalType = .ok value := by
  cases value with
  | dword n =>
      refine ⟨"DWord", rfl, ?_⟩
      have hlt : n.toUInt64.toNat < UInt32.size := by
        rw [UInt32.toNat_toUInt64]
        exact n.toNat_lt
      have hn : n.toUInt64.toUInt32 = n := by simp
      show (do
        reject (UInt32.size ≤ n.toUInt64.toNat) "registry DWORD exceeds u32"
        return RegValue.dword n.toUInt64.toUInt32) = Except.ok (RegValue.dword n)
      rw [hn, decide_eq_false (Nat.not_le.mpr hlt)]
      rfl
  | string text => exact ⟨"String", rfl, rfl⟩
  | binary bytes =>
      refine ⟨"Binary", rfl, ?_⟩
      show (do
        let bytes ← recordedBytes (bytes.map fun byte => .number (.unsigned byte.toUInt64))
        return RegValue.binary bytes) = Except.ok (RegValue.binary bytes)
      rw [recordedBytes_map]
      rfl

end

/-! ## Capturing and restoring -/

section

variable {s t u v : RegistryHost} {change : RegistryChange} {step timestamp : String}
  {natives : RestoreNatives} {config : Config}

/-- The record of what was read. -/
def recordOf (change : RegistryChange) (step timestamp : String)
    (original : Option RegValue) : BackupEntry :=
  .registry step timestamp (change.hive.root ++ ":\\" ++ change.key) change.name
    (recordedValue original).1 (recordedValue original).2.1 (recordedValue original).2.2 ∅

theorem capture_apply (s : RegistryHost) (change : RegistryChange) (step timestamp : String) :
    (captureRegistry change step timestamp s).1 =
      (readOutcome s change).map (recordOf change step timestamp) := by
  obtain ⟨t, hread⟩ := registryRead_apply s change
  unfold captureRegistry
  rw [bind_apply, hread]
  cases readOutcome s change with
  | error e => rfl
  | ok original => rfl

theorem capture_returned {entry : BackupEntry}
    (h : captureRegistry change step timestamp s = (.ok entry, t)) :
    ∃ original, readOutcome s change = .ok original ∧
      entry = recordOf change step timestamp original := by
  have hcapture := capture_apply s change step timestamp
  rw [h] at hcapture
  cases houtcome : readOutcome s change with
  | error e =>
      rw [houtcome] at hcapture
      cases hcapture
  | ok original =>
      rw [houtcome] at hcapture
      exact ⟨original, rfl, Except.ok.inj hcapture⟩

theorem parseRegistryPath_root (hive : Hive) (key : String) :
    parseRegistryPath (hive.root ++ ":\\" ++ key) = .ok (hive, key) := by
  unfold parseRegistryPath
  cases hive with
  | localMachine =>
      have hpath : (Hive.localMachine.root ++ ":\\" ++ key).toList =
          'H' :: 'K' :: 'L' :: 'M' :: ':' :: '\\' :: key.toList := by
        simp [Hive.root, String.toList_append]
      rw [hpath]
      simp [stripPrefix]
  | currentUser =>
      have hpath : (Hive.currentUser.root ++ ":\\" ++ key).toList =
          'H' :: 'K' :: 'C' :: 'U' :: ':' :: '\\' :: key.toList := by
        simp [Hive.root, String.toList_append]
      rw [hpath]
      simp [stripPrefix]

theorem quiet_restoreBinding (natives : RestoreNatives) (restore : RegistryRestore)
    (hive : Hive) (key : String) : Quiet (restoreBinding natives restore hive key) := by
  have hinstall : Quiet (discoverCs2InstallFromHkcu natives) := by
    refine (quiet_registryRead _).bind fun value => ?_
    cases steamPathOf value with
    | none => exact quiet_pure none
    | some steamPath =>
        dsimp only
        split
        · exact quiet_pure _
        · exact quiet_raise _
  have hexecutable : Quiet (discoverCs2RegistryBinding natives) := by
    refine hinstall.bind fun found => ?_
    cases found with
    | none => exact quiet_raise _
    | some install =>
        dsimp only
        split
        · exact quiet_pure _
        · exact quiet_raise _
  unfold restoreBinding
  split
  · exact quiet_ofExcept _
  split
  · refine (quiet_ofExcept _).bind fun _ => (quiet_ofExcept _).bind fun _ =>
      (quiet_ofExcept _).bind fun _ => (quiet_ofExcept _).bind fun _ =>
        (quiet_ofExcept _).bind fun _ => hexecutable.bind fun _ => quiet_ofExcept _
  split
  · exact quiet_ofExcept _
  split
  · exact quiet_ofExcept _
  split
  · exact quiet_ofExcept _
  · exact quiet_ofExcept _

/-- The two restores behind the binding. -/
theorem restoreRegistry_returned {restore : RegistryRestore}
    (h : restoreRegistry natives restore u = (.ok (), v)) : ∃ hive key u',
    parseRegistryPath restore.path = .ok (hive, key) ∧
      (if restore.existed then restoreExistingValue restore hive key
        else restoreAbsent hive key restore.name) u' = (.ok (), v) := by
  obtain ⟨⟨hive, key⟩, u₁, hparse, h⟩ := bind_eq_ok h
  obtain ⟨hok, rfl⟩ := Prod.mk.inj hparse
  obtain ⟨_, u₂, -, h⟩ := bind_eq_ok h
  exact ⟨hive, key, u₂, hok, h⟩

theorem restoreAbsent_returned {hive : Hive} {key name : String}
    (h : restoreAbsent hive key name u = (.ok (), v)) : v.value hive key name = none := by
  obtain ⟨_, u₁, hdelete, h⟩ := bind_eq_ok h
  obtain ⟨remaining, u₂, hread, h⟩ := bind_eq_ok h
  obtain ⟨-, rfl⟩ := Prod.mk.inj h
  have hkeys := (quiet_registryReadExact _ _ _ _ hread).1
  rw [RegistryHost.value, hkeys]
  exact registryDelete_returned hdelete

theorem restoreExistingValue_returned {restore : RegistryRestore} {hive : Hive}
    {key originalType : String} {value : RegValue}
    (htype : restore.originalType = some originalType)
    (hvalue : restoredValue restore.value originalType = .ok value)
    (h : restoreExistingValue restore hive key u = (.ok (), v)) :
    v.value hive key restore.name = some value.data := by
  obtain ⟨recorded, u₁, hrecorded, h⟩ := bind_eq_ok h
  obtain ⟨hok, rfl⟩ := Prod.mk.inj hrecorded
  rw [htype] at hok
  obtain rfl := Except.ok.inj hok
  obtain ⟨restored, u₂, hrestored, h⟩ := bind_eq_ok h
  obtain ⟨hok, rfl⟩ := Prod.mk.inj hrestored
  rw [hvalue] at hok
  obtain rfl := Except.ok.inj hok
  obtain ⟨_, u₃, hwrite, h⟩ := bind_eq_ok h
  have hwritten := registryWrite_returned hwrite
  by_cases hreads : readsBack restore.step = true
  · rw [if_pos hreads] at h
    obtain ⟨actual, u₄, hread, h⟩ := bind_eq_ok h
    obtain ⟨-, rfl⟩ := Prod.mk.inj h
    have hkeys := (quiet_registryReadExact _ _ _ _ hread).1
    rw [RegistryHost.value, hkeys]
    exact hwritten
  · rw [if_neg hreads] at h
    obtain ⟨-, rfl⟩ := Prod.mk.inj h
    exact hwritten

theorem recordedValue_existed (original : Option RegValue) :
    (recordedValue original).2.2 = original.isSome := by
  match original with
  | none | some (.dword _) | some (.string _) | some (.binary _) => rfl

/-- **A restore that returned** wrote the recorded value, or left none. -/
theorem restore_returned {original : Option RegValue} {base : RegistryRestore}
    {unknown : BTreeMap Value}
    (hbase : registryRestoreOf config (recordOf change step timestamp original) = some base)
    (h : restoreRegistry natives { base with unknown := unknown } u = (.ok (), v)) :
    v.value change.hive change.key change.name = original.map RegValue.data := by
  obtain rfl := Option.some.inj hbase
  obtain ⟨hive, key, u', hparse, h⟩ := restoreRegistry_returned h
  have hparse' := hparse
  rw [parseRegistryPath_root] at hparse'
  obtain ⟨rfl, rfl⟩ := Prod.mk.inj (Except.ok.inj hparse')
  cases original with
  | none => exact restoreAbsent_returned h
  | some value =>
      obtain ⟨originalType, htype, hvalue⟩ := restoredValue_recorded value
      have hexisted : (recordedValue (some value)).2.2 = true :=
        recordedValue_existed (some value)
      rw [if_pos hexisted] at h
      exact restoreExistingValue_returned htype hvalue h

/-! ## Restores that nothing interferes with -/

/-- The answer of the exact reader about a key that exists. -/
def exactOutcome : Option RegData → Except String (Option RegValue)
  | some data => valueOfExact data
  | none => .ok none

/-- Without failures the exact reader answers with the stored value. -/
theorem registryReadExact_free (change : RegistryChange) (h : s.failures = [])
    {data : Option RegData} (hkey : s.keys change.hive change.key ≠ none)
    (hvalue : s.value change.hive change.key change.name = data) :
    registryReadExact change s = (exactOutcome data, s) := by
  obtain ⟨values, hvalues⟩ := Option.ne_none_iff_exists'.mp hkey
  have hopen : regOpenKey change.hive change.key s = (.ok (), s) := by
    refine (registryCall_free h).trans ?_
    rw [hvalues]
    rfl
  unfold registryReadExact
  rw [bind_apply_ok (attempt_eq_ok.mpr hopen)]
  show readOpenedExact change s = _
  unfold readOpenedExact
  cases data with
  | none =>
      have hquery : regQueryValue change.hive change.key change.name s =
          (.error ERROR_FILE_NOT_FOUND, s) := by
        refine (registryCall_free h).trans ?_
        rw [hvalue]
      rw [bind_apply_ok (attempt_eq_ok.mpr hquery)]
      rfl
  | some data =>
      have hquery : regQueryValue change.hive change.key change.name s = (.ok data, s) := by
        refine (registryCall_free h).trans ?_
        rw [hvalue]
      rw [bind_apply_ok (attempt_eq_ok.mpr hquery)]
      show (relabel win32Error (regQueryValue change.hive change.key change.name) >>=
        fun data => ofExcept (valueOfExact data)) s = _
      rw [bind_apply_ok (relabel_eq_ok.mpr hquery)]
      rfl

theorem key_ne_none {hive : Hive} {key name : String} {data : RegData}
    (h : s.value hive key name = some data) : s.keys hive key ≠ none := by
  intro hkey
  rw [RegistryHost.value, hkey] at h
  cases h

theorem restoreAbsent_free {hive : Hive} {key name : String} {data : RegData}
    (h : s.failures = []) (hvalue : s.value hive key name = some data) :
    ∃ t, restoreAbsent hive key name s = (.ok (), t) := by
  have hdelete := registryDelete_free h hvalue
  have hread := registryReadExact_free (s := s.withValue hive key name none)
    ⟨hive, key, name, .dword 0⟩ h (by simp [RegistryHost.withValue])
    (RegistryHost.withValue_value s hive key name none)
  refine ⟨s.withValue hive key name none, ?_⟩
  unfold restoreAbsent
  rw [bind_apply_ok hdelete, bind_apply_ok hread]
  rfl

theorem restoreExistingValue_free {restore : RegistryRestore} {hive : Hive}
    {key originalType : String} {value : RegValue} (h : s.failures = [])
    (htype : restore.originalType = some originalType)
    (hvalue : restoredValue restore.value originalType = .ok value) (hplain : Plain value) :
    ∃ t, restoreExistingValue restore hive key s = (.ok (), t) := by
  obtain ⟨t, hwrite, hfree⟩ :=
    registryWrite_free ⟨hive, key, restore.name, value⟩ h
  have hwritten := registryWrite_returned hwrite
  have hread := registryReadExact_free ⟨hive, key, restore.name, value⟩ hfree
    (key_ne_none hwritten) hwritten
  have hexact : exactOutcome (some value.data) = .ok (some value) := valueOfExact_data hplain
  rw [hexact] at hread
  refine ⟨t, ?_⟩
  unfold restoreExistingValue
  rw [bind_apply_ok (show ofExcept (okOr restore.originalType
    "existing registry backup has no value type") s = (.ok originalType, s) by rw [htype]; rfl)]
  rw [bind_apply_ok (show ofExcept (restoredValue restore.value originalType) s =
    (.ok value, s) by rw [hvalue]; rfl)]
  rw [bind_apply_ok hwrite]
  by_cases hreads : readsBack restore.step = true
  · rw [if_pos hreads, bind_apply_ok hread]
    simp
  · rw [if_neg hreads]
    rfl

/-- **A restore returns** where nothing interferes and the binding holds. -/
theorem restore_free {original : Option RegValue} {base : RegistryRestore}
    {unknown : BTreeMap Value} {data : RegData} (h : u.failures = [])
    (hvalue : u.value change.hive change.key change.name = some data)
    (hplain : ∀ value, original = some value → Plain value)
    (hbase : registryRestoreOf config (recordOf change step timestamp original) = some base)
    (hbinding : (restoreBinding natives { base with unknown := unknown } change.hive
      change.key u).1 = .ok ()) :
    ∃ v, restoreRegistry natives { base with unknown := unknown } u = (.ok (), v) := by
  obtain rfl := Option.some.inj hbase
  rcases hrun : restoreBinding natives _ change.hive change.key u with ⟨r, u₁⟩
  rw [hrun] at hbinding
  obtain rfl : r = .ok () := hbinding
  obtain ⟨hkeys, hfree⟩ := quiet_restoreBinding _ _ _ _ _ _ _ hrun
  have hvalue' : u₁.value change.hive change.key change.name = some data := by
    rw [RegistryHost.value, hkeys]
    exact hvalue
  have hparse : ofExcept (parseRegistryPath (change.hive.root ++ ":\\" ++ change.key)) u =
      (.ok (change.hive, change.key), u) := by
    rw [parseRegistryPath_root]
    rfl
  unfold restoreRegistry
  rw [bind_apply_ok hparse]
  show ∃ v, (restoreBinding natives _ change.hive change.key >>= fun _ => _) u = _
  rw [bind_apply_ok hrun]
  cases original with
  | none => exact restoreAbsent_free (hfree h) hvalue'
  | some value =>
      obtain ⟨originalType, htype, hrestored⟩ := restoredValue_recorded value
      have hexisted : (recordedValue (some value)).2.2 = true :=
        recordedValue_existed (some value)
      rw [if_pos hexisted]
      exact restoreExistingValue_free (hfree h) htype hrestored (hplain value rfl)

/-! ## The inverse -/

/-- It could not be determined whether the value exists. -/
def Undetermined (s : RegistryHost) (change : RegistryChange) : Prop :=
  (failureAt s 0).isSome = true ∨
    ((s.keys change.hive change.key).isSome = true ∧ (failureAt s 1).isSome = true)

/-- **Capturing before a change makes the change reversible**: a restore gives
back the value, it returns where nothing interferes with it, and a value that
has no record is refused. -/
structure Reversible (natives : RestoreNatives) (config : Config) (s : RegistryHost)
    (change : RegistryChange) (step timestamp : String) : Prop where
  identity : ∀ entry t u v base unknown,
    captureRegistry change step timestamp s = (.ok entry, t) →
    registryWrite change t = (.ok (), u) → registryRestoreOf config entry = some base →
    restoreRegistry natives { base with unknown := unknown } u = (.ok (), v) →
    v.value change.hive change.key change.name = s.value change.hive change.key change.name
  completes : ∀ entry t base unknown,
    captureRegistry change step timestamp s = (.ok entry, t) → t.failures = [] →
    registryRestoreOf config entry = some base →
    (∀ u, registryWrite change t = (.ok (), u) → (restoreBinding natives
      { base with unknown := unknown } change.hive change.key u).1 = .ok ()) →
    ∃ u v, registryWrite change t = (.ok (), u) ∧
      restoreRegistry natives { base with unknown := unknown } u = (.ok (), v)
  refuses : (∃ data, s.value change.hive change.key change.name = some data ∧
      ¬ Lossless data) ∨ Undetermined s change →
    ∃ e t, captureRegistry change step timestamp s = (.error e, t)

/-- The key and the value were found as they are, and the value is in the stored
form of a type the adapter knows, or is refused: the second query failed, or the
text is not UTF-16. -/
def Readable (s : RegistryHost) (change : RegistryChange) : Prop :=
  failureAt s 0 = none ∧ ∀ values, s.keys change.hive change.key = some values →
    failureAt s 1 = none ∧ ∀ data, values change.name = some data →
      (failureAt s 2).isSome = true ∨ Lossless data ∨
        (data.kind = REG_SZ ∧ readText data.bytes = none)

/-- What a readable value is read as. -/
theorem readOutcome_readable (h : Readable s change) :
    (∃ e, readOutcome s change = .error e) ∨
      ∃ original, readOutcome s change = .ok original ∧
        (∀ value, original = some value → Plain value) ∧
        s.value change.hive change.key change.name = original.map RegValue.data := by
  obtain ⟨hopen, hkeys⟩ := h
  unfold readOutcome
  rw [hopen]
  cases hkey : s.keys change.hive change.key with
  | none => exact .inr ⟨none, rfl, (fun _ h => by cases h), by simp [RegistryHost.value, hkey]⟩
  | some values =>
      obtain ⟨hfirst, hdata⟩ := hkeys values hkey
      have hvalue : s.value change.hive change.key change.name = values change.name := by
        simp [RegistryHost.value, hkey]
      rw [hvalue]
      simp only [hfirst]
      cases hname : values change.name with
      | none => exact .inr ⟨none, rfl, (fun _ h => by cases h), rfl⟩
      | some data =>
          cases hsecond : failureAt s 2 with
          | some failure => exact .inl ⟨_, rfl⟩
          | none =>
              rcases hdata data hname with hfailed | ⟨value, hplain, rfl⟩ | ⟨hkind, htext⟩
              · rw [hsecond] at hfailed
                cases hfailed
              · right
                refine ⟨some value, valueOf_data hplain, ?_, rfl⟩
                rintro _ ⟨⟩
                exact hplain
              · exact .inl ⟨_, valueOf_corrupt hkind htext⟩

/-- A value that is not readable is read. -/
theorem readOutcome_not_readable (h : ¬ Readable s change) :
    (∃ original, readOutcome s change = .ok original) ∧
      ((∃ data, s.value change.hive change.key change.name = some data ∧
        ¬ Lossless data) ∨ Undetermined s change) := by
  unfold readOutcome
  cases hopen : failureAt s 0 with
  | some failure => exact ⟨⟨none, rfl⟩, .inr (.inl (by rw [hopen]; rfl))⟩
  | none =>
      cases hkey : s.keys change.hive change.key with
      | none => exact absurd ⟨hopen, fun values hvalues => by rw [hkey] at hvalues; cases hvalues⟩ h
      | some values =>
          have hvalue : s.value change.hive change.key change.name = values change.name := by
            simp [RegistryHost.value, hkey]
          cases hfirst : failureAt s 1 with
          | some failure =>
              exact ⟨⟨none, rfl⟩, .inr (.inr ⟨by rw [hkey]; rfl, by rw [hfirst]; rfl⟩)⟩
          | none =>
              cases hname : values change.name with
              | none =>
                  refine absurd ⟨hopen, fun values' hvalues => ⟨hfirst, fun data hdata => ?_⟩⟩ h
                  rw [hkey] at hvalues
                  obtain rfl := Option.some.inj hvalues
                  rw [hname] at hdata
                  cases hdata
              | some data =>
                  have hbad : ¬ ((failureAt s 2).isSome = true ∨ Lossless data ∨
                      (data.kind = REG_SZ ∧ readText data.bytes = none)) := by
                    intro hgood
                    refine h ⟨hopen, fun values' hvalues => ⟨hfirst, fun data' hdata => ?_⟩⟩
                    rw [hkey] at hvalues
                    obtain rfl := Option.some.inj hvalues
                    rw [hname] at hdata
                    obtain rfl := Option.some.inj hdata
                    exact hgood
                  push Not at hbad
                  obtain ⟨hsecond, hlossy, htext⟩ := hbad
                  have hnone : failureAt s 2 = none := by
                    cases hfailure : failureAt s 2 with
                    | none => rfl
                    | some failure =>
                        rw [hfailure] at hsecond
                        exact absurd rfl hsecond
                  refine ⟨?_, .inl ⟨data, by rw [hvalue, hname], hlossy⟩⟩
                  simp only [hname, hnone]
                  cases hread : valueOf data with
                  | ok original => exact ⟨original, rfl⟩
                  | error e =>
                      obtain ⟨hkind, hcorrupt⟩ := valueOf_eq_error hread
                      exact absurd hcorrupt (htext hkind)

/-- **When a capture makes the change reversible**: exactly where the value is
readable. -/
theorem registryInverse (natives : RestoreNatives) (config : Config) (s : RegistryHost)
    (change : RegistryChange) (step timestamp : String) :
    Reversible natives config s change step timestamp ↔ Readable s change := by
  constructor
  · intro h
    by_contra hunreadable
    obtain ⟨⟨original, houtcome⟩, hlost⟩ := readOutcome_not_readable hunreadable
    obtain ⟨e, t, herror⟩ := h.refuses hlost
    have hcapture := capture_apply s change step timestamp
    rw [herror, houtcome] at hcapture
    cases hcapture
  · intro h
    refine ⟨?_, ?_, ?_⟩
    · intro entry t u v base unknown hcapture hwrite hbase hrestore
      obtain ⟨original, houtcome, rfl⟩ := capture_returned hcapture
      rw [restore_returned hbase hrestore]
      rcases readOutcome_readable h with ⟨e, herror⟩ | ⟨original', hok, -, hvalue⟩
      · rw [houtcome] at herror
        cases herror
      · rw [houtcome] at hok
        obtain rfl := Except.ok.inj hok
        exact hvalue.symm
    · intro entry t base unknown hcapture hfree hbase hbinding
      obtain ⟨original, houtcome, rfl⟩ := capture_returned hcapture
      obtain ⟨u, hwrite, hfree'⟩ := registryWrite_free change hfree
      have hplain : ∀ value, original = some value → Plain value := by
        rcases readOutcome_readable h with ⟨e, herror⟩ | ⟨original', hok, hplain, -⟩
        · rw [houtcome] at herror
          cases herror
        · rw [houtcome] at hok
          obtain rfl := Except.ok.inj hok
          exact hplain
      obtain ⟨v, hrestore⟩ := restore_free hfree' (registryWrite_returned hwrite) hplain hbase
        (hbinding u hwrite)
      exact ⟨u, v, hwrite, hrestore⟩
    · intro hlost
      rcases hrun : captureRegistry change step timestamp s with ⟨r, t⟩
      cases r with
      | error e => exact ⟨e, t, rfl⟩
      | ok entry =>
          obtain ⟨original, houtcome, -⟩ := capture_returned hrun
          exfalso
          obtain ⟨hopen, hkeys⟩ := h
          rcases hlost with ⟨data, hvalue, hlossy⟩ | hfailed | ⟨hkey, hfailed⟩
          · rcases readOutcome_readable ⟨hopen, hkeys⟩ with ⟨e, herror⟩ | ⟨_, hok, hplain, hsame⟩
            · rw [houtcome] at herror
              cases herror
            · rw [hvalue] at hsame
              obtain ⟨value, rfl, hdata⟩ := Option.map_eq_some_iff.mp hsame.symm
              exact hlossy ⟨value, hplain value rfl, hdata⟩
          · rw [hopen] at hfailed
            cases hfailed
          · obtain ⟨values, hvalues⟩ := Option.isSome_iff_exists.mp hkey
            rw [(hkeys values hvalues).1] at hfailed
            cases hfailed

/-- The first change of the game mode step. -/
def gameModeChange : RegistryChange where
  hive := .currentUser
  key := "SOFTWARE\\Microsoft\\GameBar"
  name := "AllowAutoGameMode"
  value := .dword 1

/-- A host on which that value is a number of eight bytes, and no call fails. -/
def qwordHost : RegistryHost where
  keys hive key :=
    if hive = .currentUser ∧ key = "SOFTWARE\\Microsoft\\GameBar" then
      some fun name =>
        if name = "AllowAutoGameMode" then some { kind := 11, bytes := [1, 0, 0, 0, 0, 0, 0, 0] }
        else none
    else none

/-- A system that answers no question of a restore. -/
def noNatives : RestoreNatives where
  reobserveNagle _ := .error "no interface"
  discoverCs2Install _ := .ok none
  canonicalize path := .ok path

/-- The record of that value says that there was none, and the restore deletes it. -/
theorem registryInverse_qword : ¬ Reversible noNatives shippedConfig qwordHost gameModeChange
    "P1:12" "2026-01-01 00:00:00" := by
  intro h
  have hcapture : (captureRegistry gameModeChange "P1:12" "2026-01-01 00:00:00" qwordHost).1 =
      .ok (recordOf gameModeChange "P1:12" "2026-01-01 00:00:00" none) := by decide +kernel
  have hwrite : (registryWrite gameModeChange
      (captureRegistry gameModeChange "P1:12" "2026-01-01 00:00:00" qwordHost).2).1 =
      .ok () := by decide +kernel
  have hrestore : (restoreRegistry noNatives
      { step := "P1:12", path := "HKCU:\\SOFTWARE\\Microsoft\\GameBar"
        name := "AllowAutoGameMode", value := .null, originalType := none
        existed := false, unknown := ∅, config := shippedConfig }
      (registryWrite gameModeChange (captureRegistry gameModeChange "P1:12"
        "2026-01-01 00:00:00" qwordHost).2).2).1 = .ok () := by decide +kernel
  have hlost := h.identity _ _ _ _ _ ∅ (Prod.ext hcapture rfl) (Prod.ext hwrite rfl) rfl
    (Prod.ext hrestore rfl)
  revert hlost
  decide +kernel

end

end FrametimeCfg.Verified.RegistryInverse
