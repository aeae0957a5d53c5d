import FrametimeCfg.Verified.Reload

/-!
# The codecs of the state and the progress

The decoders of `state.json` and `progress.json` are written by hand and accept every
object; the encoders write the fields of the record and then the rest.  What a decoder
returns is written so that it is read back as it is, in every later generation as in
the first.

A transaction that is no object and a receipt that does not decode stay in the rest
under their names.  They are written back as they were, and no such state is valid.
-/

namespace FrametimeCfg.Verified.StateCodec

open FrametimeCfg.Domain
open FrametimeCfg.Lib.Checks
open FrametimeCfg.Lib.OrderedMap
open FrametimeCfg.Verified.Reload

/-! ## Generations -/

/-- What a document is read as, or is read as after it was written again. -/
inductive Generation {α : Type} (decode : Value → Except String α) (encode : α → Value)
    (document : Value) : α → Prop where
  | first {a : α} (h : decode document = .ok a) : Generation decode encode document a
  | next {a b : α} (ha : Generation decode encode document a)
      (h : decode (encode a) = .ok b) : Generation decode encode document b

/-- A codec that is stable on what it reads has one generation. -/
theorem Generation.eq {α : Type} {decode : Value → Except String α} {encode : α → Value}
    {document : Value} {a b : α} (hread : decode document = .ok a)
    (hstable : decode (encode a) = .ok a) (h : Generation decode encode document b) :
    b = a := by
  induction h with
  | first h => exact Except.ok.inj (h.symm.trans hread)
  | next _ h ih =>
      subst ih
      exact Except.ok.inj (h.symm.trans hstable)

/-- A top-level field of a document. -/
def field (document : Value) (k : String) : Option Value :=
  document.asObject.bind fun fields => fields[k]?

/-! ## Reading back fields -/

/-- A record whose rest does not name its fields. -/
theorem read_record {named : List (String × Option Value)} {keys : List String}
    (hkeys : named.map Prod.fst = keys) (hnodup : keys.Nodup) {rest : BTreeMap Value}
    (hrest : ∀ k ∈ keys, rest[k]? = none) :
    ∃ fields, (Value.ofRecord named rest).asObject = some fields ∧
      (∀ k ∈ keys, fields[k]? = Value.entry named k) ∧
      BTreeMap.without fields keys = rest := by
  have hall : (keys ++ []).Nodup := by rwa [List.append_nil]
  have hpart : ([] : List (String × Option Value)).map Prod.fst = [] := rfl
  obtain ⟨fields, hread, hget, hwithout⟩ :=
    Value.asObject_ofRecord_append hkeys hpart hall hrest
  rw [List.append_nil] at hread
  refine ⟨fields, hread, hget, hwithout.trans ?_⟩
  exact BTreeMap.ext fun k => by
    rw [Value.get_flattened (by simp)]
    simp [Value.entry]

theorem requiredString_of_get {name text : String} {fields : BTreeMap Value}
    (h : fields[name]? = some (.string text)) : requiredString name fields = .ok text := by
  rw [requiredString, h]

/-- An optional text comes back. -/
theorem optionalString_map (text : Option String) :
    optionalString (text.map .string) = .ok text := by
  cases text <;> rfl

theorem tolerantString_map (text : Option String) :
    tolerantString (text.map .string) = text := by
  cases text <;> rfl

theorem tolerantU8_ofU64 (n : UInt8) : tolerantU8 (some (.ofU64 n.toUInt64)) = some n := by
  have hlt : n.toUInt64.toNat < 256 := by
    rw [UInt8.toNat_toUInt64]
    exact n.toNat_lt
  show (if n.toUInt64.toNat < 256 then some (UInt8.ofNat n.toUInt64.toNat) else none) = _
  rw [if_pos hlt, UInt8.toNat_toUInt64, UInt8.ofNat_toNat]

theorem tolerantU32_ofU64 (n : UInt32) :
    tolerantU32 (some (.ofU64 n.toUInt64)) = some n := by
  have hlt : n.toUInt64.toNat < 4294967296 := by
    rw [UInt32.toNat_toUInt64]
    exact n.toNat_lt
  show (if n.toUInt64.toNat < 4294967296 then some (UInt32.ofNat n.toUInt64.toNat)
    else none) = _
  rw [if_pos hlt, UInt32.toNat_toUInt64, UInt32.ofNat_toNat]

/-- A finite number comes back. -/
theorem asF64_ofF64 {x : F64} (h : x.isFinite = true) : (Value.ofF64 x).asF64 = some x := by
  cases x with
  | finite q => rfl
  | nan => cases h
  | inf negative => cases h

/-- What a document holds is finite. -/
theorem isFinite_asF64 {value : Value} {x : F64} (h : value.asF64 = some x) :
    x.isFinite = true := by
  unfold Value.asF64 at h
  split at h
  · obtain rfl := Option.some.inj h
    rfl
  · obtain rfl := Option.some.inj h
    rfl
  · obtain rfl := Option.some.inj h
    rfl
  · cases h

/-! ## The transaction -/

def runtimeKeys : List String :=
  ["generation", "manifestSha256", "payloadContractHash", "executablePath",
    "executableSha256"]

def runtimeEntries (r : RuntimeRecord) : List (String × Option Value) :=
  [("generation", some (.string r.generation)),
    ("manifestSha256", some (.string r.manifestSha256)),
    ("payloadContractHash", some (.string r.payloadContractHash)),
    ("executablePath", some (.string r.executablePath)),
    ("executableSha256", some (.string r.executableSha256))]

theorem runtime_decode_encode {r : RuntimeRecord}
    (h : ∀ k ∈ runtimeKeys, r.unknown[k]? = none) :
    RuntimeRecord.decode r.encode = .ok r := by
  have hkeys : (runtimeEntries r).map Prod.fst = runtimeKeys := rfl
  obtain ⟨fields, hread, hget, hrest⟩ := read_record hkeys (by decide) h
  have hobject : r.encode.asObject = some fields := hread
  have htext : ∀ {k text : String}, k ∈ runtimeKeys →
      Value.entry (runtimeEntries r) k = some (.string text) →
      requiredString k fields = .ok text :=
    fun hk hentry => requiredString_of_get ((hget _ hk).trans hentry)
  unfold RuntimeRecord.decode
  rw [hobject]
  simp only [htext (k := "generation") (by decide) rfl,
    htext (k := "manifestSha256") (by decide) rfl,
    htext (k := "payloadContractHash") (by decide) rfl,
    htext (k := "executablePath") (by decide) rfl,
    htext (k := "executableSha256") (by decide) rfl, bind_ok]
  show Except.ok { r with unknown := BTreeMap.without fields runtimeKeys } = _
  rw [hrest]

theorem runtime_of_decode {value : Value} {r : RuntimeRecord}
    (h : RuntimeRecord.decode value = .ok r) : ∀ k ∈ runtimeKeys, r.unknown[k]? = none := by
  unfold RuntimeRecord.decode at h
  split at h
  · cases h
  · obtain ⟨_, -, h⟩ := bind_eq_ok.mp h
    obtain ⟨_, -, h⟩ := bind_eq_ok.mp h
    obtain ⟨_, -, h⟩ := bind_eq_ok.mp h
    obtain ⟨_, -, h⟩ := bind_eq_ok.mp h
    obtain ⟨_, -, h⟩ := bind_eq_ok.mp h
    obtain rfl := Except.ok.inj h
    intro k hk
    show (BTreeMap.without _ runtimeKeys)[k]? = none
    rw [BTreeMap.get_without, if_pos hk]

def driverKeys : List String := ["publishedName", "provider", "classGuid", "version"]

def driverEntries (r : DriverPackageRecord) : List (String × Option Value) :=
  [("publishedName", some (.string r.publishedName)),
    ("provider", r.provider.map .string),
    ("classGuid", r.classGuid.map .string),
    ("version", r.version.map .string)]

theorem driver_decode_encode {r : DriverPackageRecord}
    (h : ∀ k ∈ driverKeys, r.unknown[k]? = none) :
    DriverPackageRecord.decode r.encode = .ok r := by
  have hkeys : (driverEntries r).map Prod.fst = driverKeys := rfl
  obtain ⟨fields, hread, hget, hrest⟩ := read_record hkeys (by decide) h
  have hobject : r.encode.asObject = some fields := hread
  have hname : requiredString "publishedName" fields = .ok r.publishedName :=
    requiredString_of_get ((hget _ (by decide)).trans rfl)
  have hprovider : fields["provider"]? = r.provider.map .string := hget _ (by decide)
  have hclass : fields["classGuid"]? = r.classGuid.map .string := hget _ (by decide)
  have hversion : fields["version"]? = r.version.map .string := hget _ (by decide)
  unfold DriverPackageRecord.decode
  rw [hobject]
  simp only [hname, hprovider, hclass, hversion, optionalString_map, bind_ok]
  show Except.ok { r with unknown := BTreeMap.without fields driverKeys } = _
  rw [hrest]

theorem driver_of_decode {value : Value} {r : DriverPackageRecord}
    (h : DriverPackageRecord.decode value = .ok r) :
    ∀ k ∈ driverKeys, r.unknown[k]? = none := by
  unfold DriverPackageRecord.decode at h
  split at h
  · cases h
  · obtain ⟨_, -, h⟩ := bind_eq_ok.mp h
    obtain ⟨_, -, h⟩ := bind_eq_ok.mp h
    obtain ⟨_, -, h⟩ := bind_eq_ok.mp h
    obtain ⟨_, -, h⟩ := bind_eq_ok.mp h
    obtain rfl := Except.ok.inj h
    intro k hk
    show (BTreeMap.without _ driverKeys)[k]? = none
    rw [BTreeMap.get_without, if_pos hk]

/-- A field that is kept where it decodes comes back. -/
theorem toOption_map_encode {α : Type} {decode : Value → Except String α}
    {encode : α → Value} {read : Option α}
    (h : ∀ a ∈ read, decode (encode a) = .ok a) :
    ((read.map encode).bind fun value => (decode value).toOption) = read := by
  cases read with
  | none => rfl
  | some a =>
      show (decode (encode a)).toOption = some a
      rw [h a rfl]
      rfl

/-- The transaction, with the records that it holds. -/
structure ReadTransaction (t : RebootTransaction) : Prop where
  stable : StableTransaction t
  runtime : ∀ r ∈ t.runtime, ∀ k ∈ runtimeKeys, r.unknown[k]? = none
  driverPackage : ∀ r ∈ t.driverPackage, ∀ k ∈ driverKeys, r.unknown[k]? = none

/-- What `toOption` keeps was decoded. -/
theorem decode_of_toOption {α : Type} {decode : Value → Except String α}
    {value : Option Value} {a : α}
    (h : a ∈ value.bind fun value => (decode value).toOption) :
    ∃ v, value = some v ∧ decode v = .ok a := by
  obtain ⟨v, hv, hdecode⟩ := Option.bind_eq_some_iff.mp h
  refine ⟨v, hv, ?_⟩
  cases hresult : decode v with
  | ok b =>
      rw [hresult] at hdecode
      rw [Option.some.inj hdecode]
  | error e =>
      rw [hresult] at hdecode
      cases hdecode

theorem readTransaction_of_decode {value : Value} {t : RebootTransaction}
    (h : RebootTransaction.decode value = .ok t) : ReadTransaction t := by
  refine ⟨stableTransaction_of_decode h, ?_, ?_⟩
  · intro r hr
    unfold RebootTransaction.decode at h
    split at h
    · cases h
    · obtain rfl := Except.ok.inj h
      obtain ⟨v, -, hdecode⟩ := decode_of_toOption hr
      exact runtime_of_decode hdecode
  · intro r hr
    unfold RebootTransaction.decode at h
    split at h
    · cases h
    · obtain rfl := Except.ok.inj h
      obtain ⟨v, -, hdecode⟩ := decode_of_toOption hr
      exact driver_of_decode hdecode

/-- The order of the removed keys does not matter. -/
theorem without_congr {fields : BTreeMap Value} {keys keys' : List String}
    (h : ∀ k, k ∈ keys ↔ k ∈ keys') :
    BTreeMap.without fields keys = BTreeMap.without fields keys' := by
  refine BTreeMap.ext fun k => ?_
  rw [BTreeMap.get_without, BTreeMap.get_without]
  simp only [h]

def transactionKeys : List String :=
  ["schemaVersion", "transactionId", "initiatorUserSid", "stage", "runtime",
    "driverPackage", "createdUtc", "updatedUtc"]

theorem mem_transactionKeys (k : String) :
    k ∈ transactionKeys ↔ k ∈ RebootTransaction.knownKeys := by
  simp only [transactionKeys, RebootTransaction.knownKeys, List.mem_cons]
  tauto

/-- **A transaction that was read comes back.** -/
theorem transaction_decode_encode {t : RebootTransaction} (h : ReadTransaction t) :
    RebootTransaction.decode t.encode = .ok t := by
  have hkeys : t.entries.map Prod.fst = transactionKeys := rfl
  have hnames : ∀ k ∈ transactionKeys, t.unknown[k]? = none :=
    fun k hk => h.stable.rest k ((mem_transactionKeys k).mp hk)
  obtain ⟨fields, hread, hget, hrest⟩ := read_record hkeys (by decide) hnames
  rw [without_congr mem_transactionKeys] at hrest
  have hobject : t.encode.asObject = some fields := hread
  have hversion : fields["schemaVersion"]? = some (.ofU64 t.schemaVersion.toUInt64) :=
    hget _ (by decide)
  have hid : fields["transactionId"]? = some ((t.transactionId.map fun id =>
      Value.string id.text).getD .null) := hget _ (by decide)
  have hsid : fields["initiatorUserSid"]? = t.initiatorUserSid.map .string :=
    hget _ (by decide)
  have hstage : fields["stage"]? = some (.string t.stage.asStr) := hget _ (by decide)
  have hruntime : fields["runtime"]? = t.runtime.map RuntimeRecord.encode :=
    hget _ (by decide)
  have hdriver : fields["driverPackage"]? = t.driverPackage.map DriverPackageRecord.encode :=
    hget _ (by decide)
  have hcreated : fields["createdUtc"]? = t.createdUtc.map .string := hget _ (by decide)
  have hupdated : fields["updatedUtc"]? = t.updatedUtc.map .string := hget _ (by decide)
  have hidText : (tolerantString (some ((t.transactionId.map fun id =>
      Value.string id.text).getD .null))).bind (fun text =>
        (TransactionId.parse text).toOption) = t.transactionId := by
    cases t.transactionId with
    | none => rfl
    | some id =>
        show (TransactionId.parse id.text).toOption = some id
        rw [TransactionId.parse_text]
        rfl
  have hstageText : ((tolerantString (some (.string t.stage.asStr))).map
      RebootStage.parse).getD (.unknown "missing") = t.stage := h.stable.stage
  unfold RebootTransaction.decode
  rw [hobject]
  simp only [hversion, hid, hsid, hstage, hruntime, hdriver, hcreated, hupdated, hidText,
    hstageText, tolerantString_map, tolerantU8_ofU64, hrest,
    toOption_map_encode fun r hr => runtime_decode_encode (h.runtime r hr),
    toOption_map_encode fun r hr => driver_decode_encode (h.driverPackage r hr)]
  rfl

/-! ## The receipt -/

theorem receipt_of_decode {value : Value} {r : FinalBenchmarkReceipt}
    (h : FinalBenchmarkReceipt.decode value = .ok r) :
    (∀ k ∈ FinalBenchmarkReceipt.knownKeys, r.unknown[k]? = none) ∧
      r.avgFps.isFinite = true ∧ r.p1Fps.isFinite = true := by
  have hfinite : ∀ {name : String} {fields : BTreeMap Value} {x : F64},
      requiredF64 name fields = .ok x → x.isFinite = true := by
    intro name fields x hx
    obtain ⟨v, -, hx⟩ := bind_eq_ok.mp hx
    exact isFinite_asF64 (okOr_eq_ok.mp hx)
  obtain ⟨fields, -, h⟩ := bind_eq_ok.mp h
  obtain ⟨_, -, h⟩ := bind_eq_ok.mp h
  obtain ⟨_, -, h⟩ := bind_eq_ok.mp h
  obtain ⟨_, -, h⟩ := bind_eq_ok.mp h
  obtain ⟨_, -, h⟩ := bind_eq_ok.mp h
  obtain ⟨_, havg, h⟩ := bind_eq_ok.mp h
  obtain ⟨_, hp1, h⟩ := bind_eq_ok.mp h
  obtain ⟨_, -, h⟩ := bind_eq_ok.mp h
  obtain ⟨_, -, h⟩ := bind_eq_ok.mp h
  obtain ⟨_, -, h⟩ := bind_eq_ok.mp h
  obtain rfl := Except.ok.inj h
  refine ⟨?_, hfinite havg, hfinite hp1⟩
  intro k hk
  show (BTreeMap.without _ FinalBenchmarkReceipt.knownKeys)[k]? = none
  rw [BTreeMap.get_without, if_pos hk]

def receiptEntries (r : FinalBenchmarkReceipt) : List (String × Option Value) :=
  [("schemaVersion", some (.ofU64 r.schemaVersion.toUInt64)),
    ("receiptId", some (.string r.receiptId.text)),
    ("transactionId", some (.string r.transactionId.text)),
    ("capturedUtc", some (.string r.capturedUtc)),
    ("avgFps", some (.ofF64 r.avgFps)),
    ("p1Fps", some (.ofF64 r.p1Fps)),
    ("runs", some (.ofU64 r.runs.toUInt64)),
    ("fpsCap", some (.ofU64 r.fpsCap.toUInt64)),
    ("label", some (.string r.label))]

theorem receipt_decode_encode {r : FinalBenchmarkReceipt}
    (h : ∀ k ∈ FinalBenchmarkReceipt.knownKeys, r.unknown[k]? = none)
    (havg : r.avgFps.isFinite = true) (hp1 : r.p1Fps.isFinite = true) :
    FinalBenchmarkReceipt.decode r.encode = .ok r := by
  have hkeys : (receiptEntries r).map Prod.fst = FinalBenchmarkReceipt.knownKeys := rfl
  obtain ⟨fields, hread, hget, hrest⟩ := read_record hkeys (by decide) h
  have hobject : r.encode.asObject = some fields := hread
  have htext : ∀ {k text : String}, k ∈ FinalBenchmarkReceipt.knownKeys →
      Value.entry (receiptEntries r) k = some (.string text) →
      requiredString k fields = .ok text :=
    fun hk hentry => requiredString_of_get ((hget _ hk).trans hentry)
  have hversion : requiredU8 "schemaVersion" fields = .ok r.schemaVersion := by
    have hfield : fields["schemaVersion"]? = some (.ofU64 r.schemaVersion.toUInt64) :=
      hget _ (by decide)
    unfold requiredU8
    rw [hfield, okOr_some, bind_ok, tolerantU8_ofU64, okOr_some]
  have hnumber : ∀ {k : String} {n : UInt32}, k ∈ FinalBenchmarkReceipt.knownKeys →
      Value.entry (receiptEntries r) k = some (.ofU64 n.toUInt64) →
      requiredU32 k fields = .ok n := by
    intro k n hk hentry
    unfold requiredU32
    rw [hget _ hk, hentry, okOr_some, bind_ok, tolerantU32_ofU64, okOr_some]
  have hrate : ∀ {k : String} {x : F64}, k ∈ FinalBenchmarkReceipt.knownKeys →
      Value.entry (receiptEntries r) k = some (.ofF64 x) → x.isFinite = true →
      requiredF64 k fields = .ok x := by
    intro k x hk hentry hx
    unfold requiredF64
    rw [hget _ hk, hentry, okOr_some, bind_ok, asF64_ofF64 hx, okOr_some]
  have hid : TransactionId.parse r.receiptId.text = .ok r.receiptId :=
    TransactionId.parse_text _
  unfold FinalBenchmarkReceipt.decode
  rw [hobject, okOr_some, bind_ok, hversion, bind_ok,
    htext (k := "receiptId") (by decide) rfl, htext (k := "transactionId") (by decide) rfl,
    htext (k := "capturedUtc") (by decide) rfl, htext (k := "label") (by decide) rfl,
    hrate (k := "avgFps") (by decide) rfl havg, hrate (k := "p1Fps") (by decide) rfl hp1,
    hnumber (k := "runs") (by decide) rfl, hnumber (k := "fpsCap") (by decide) rfl]
  simp only [Except.bind, TransactionId.parse_text, bind_ok]
  show Except.ok { r with
    unknown := BTreeMap.without fields FinalBenchmarkReceipt.knownKeys } = _
  rw [hrest]

/-! ## The state -/

def modes : List String := ["AUTO", "CONTROL", "INFORMED", "YOLO", "DRY-RUN"]
def logLevels : List String := ["MINIMAL", "NORMAL", "VERBOSE"]

/-- A rate that is written and read back. -/
def ReadRate (x : F64) : Prop := x.isFinite = true ∧ F64.fle F64.zero x = true

/-- A typed field is read, or what stays in the rest does not decode. -/
def ReadTyped {α : Type} (decode : Value → Except String α) (read : Option α)
    (rest : Option Value) : Prop :=
  match read with
  | some _ => rest = none
  | none => ∀ value ∈ rest, ∃ e, decode value = .error e

/-- A state as the decoder makes it. -/
structure ReadState (s : State) : Prop where
  mode : s.mode ∈ modes
  logLevel : s.logLevel ∈ logLevels
  avgFps : s.avgFps.isFinite = true
  p1Fps : ∀ x ∈ s.p1Fps, ReadRate x
  baselineAvg : ReadRate s.baselineAvg
  baselineP1 : ∀ x ∈ s.baselineP1, ReadRate x
  gpuInput : ∀ text ∈ s.gpuInput, text ∈ GPU_INPUTS
  pagefileMb : s.pagefileMb = 0 ∨ s.pagefileMb ≤ MAX_PAGEFILE_MB
  transaction : ∀ t ∈ s.activeRebootTransaction, ReadTransaction t
  receipt : ∀ r ∈ s.finalBenchmark, FinalBenchmarkReceipt.decode r.encode = .ok r
  rest : ∀ k ∈ State.removedKeys, s.unknown[k]? = none
  restTransaction : ReadTyped RebootTransaction.decode s.activeRebootTransaction
    s.unknown["activeRebootTransaction"]?
  restReceipt : ReadTyped FinalBenchmarkReceipt.decode s.finalBenchmark
    s.unknown["finalBenchmark"]?

theorem readRate_zero : ReadRate F64.zero := ⟨rfl, by decide⟩

theorem getD_filter_mem {l : List String} {text : Option String} {default : String}
    (h : default ∈ l) : (text.filter (· ∈ l)).getD default ∈ l := by
  cases hfilter : text.filter (· ∈ l) with
  | none => exact h
  | some t => exact of_decide_eq_true (Option.filter_eq_some_iff.mp hfilter).2

/-- A text that passes the filter comes back. -/
theorem getD_filter_of_mem {l : List String} {text default : String} (h : text ∈ l) :
    ((some text).filter (· ∈ l)).getD default = text := by
  rw [Option.filter_some, if_pos (decide_eq_true h), Option.getD_some]

theorem isFinite_finiteF64 {value : Option Value} {x : F64} (h : x ∈ finiteF64 value) :
    x.isFinite = true :=
  (Option.filter_eq_some_iff.mp h).2

theorem readRate_nonnegativeF64 {value : Option Value} {x : F64}
    (h : x ∈ nonnegativeF64 value) : ReadRate x := by
  obtain ⟨hfinite, hnonneg⟩ := Option.filter_eq_some_iff.mp h
  exact ⟨isFinite_finiteF64 hfinite, hnonneg⟩

theorem finiteF64_ofF64 {x : F64} (h : x.isFinite = true) :
    finiteF64 (some (.ofF64 x)) = some x := by
  show ((Value.ofF64 x).asF64).filter F64.isFinite = some x
  rw [asF64_ofF64 h, Option.filter_some, if_pos h]

theorem nonnegativeF64_ofF64 {x : F64} (h : ReadRate x) :
    nonnegativeF64 (some (.ofF64 x)) = some x := by
  unfold nonnegativeF64
  rw [finiteF64_ofF64 h.1, Option.filter_some, if_pos h.2]

theorem nonnegativeF64_map {x : Option F64} (h : ∀ y ∈ x, ReadRate y) :
    nonnegativeF64 (x.map .ofF64) = x := by
  cases x with
  | none => rfl
  | some y => exact nonnegativeF64_ofF64 (h y rfl)

/-- A rate that is not written is zero. -/
theorem baselineAvg_read {x : F64} (h : ReadRate x) :
    (nonnegativeF64 (if F64.feq x F64.zero then none else some (.ofF64 x))).getD
      F64.zero = x := by
  cases hzero : F64.feq x F64.zero with
  | true =>
      have hx : x = F64.zero := by
        cases x with
        | nan => cases hzero
        | inf negative => exact of_decide_eq_true hzero
        | finite q => exact of_decide_eq_true hzero
      rw [hx]
      rfl
  | false =>
      show (nonnegativeF64 (some (.ofF64 x))).getD F64.zero = x
      rw [nonnegativeF64_ofF64 h]
      rfl

theorem parseProfile_asStr (profile : Profile) : parseProfile profile.asStr = some profile := by
  cases profile <;> decide +kernel

/-- A typed field comes back, and what does not decode is not read. -/
theorem typed_read {α : Type} {decode : Value → Except String α} {encode : α → Value}
    {read : Option α} {rest : Option Value} (hrest : ReadTyped decode read rest)
    (hread : ∀ a ∈ read, decode (encode a) = .ok a) :
    typedPreservingMalformed decode (rest.or (read.map encode)) = read := by
  cases read with
  | some a =>
      have hnone : rest = none := hrest
      subst hnone
      exact toOption_map_encode hread
  | none =>
      cases rest with
      | none => rfl
      | some value =>
          obtain ⟨e, he⟩ := hrest value rfl
          show (decode value).toOption = none
          rw [he]
          rfl

theorem readTyped_decode {α : Type} {decode : Value → Except String α}
    (value : Option Value) :
    ReadTyped decode (typedPreservingMalformed decode value)
      (if (typedPreservingMalformed decode value).isSome then none else value) := by
  cases hread : typedPreservingMalformed decode value with
  | some a => exact rfl
  | none =>
      intro v hv
      have hvalue : value = some v := hv
      subst hvalue
      cases hdecode : decode v with
      | error e => exact ⟨e, rfl⟩
      | ok a =>
          have hsome : (decode v).toOption = none := hread
          rw [hdecode] at hsome
          cases hsome

/-- The names of the two typed fields that the decoder removes. -/
def decodedKeys (s : State) : List String :=
  (if s.activeRebootTransaction.isSome then ["activeRebootTransaction"] else []) ++
    (if s.finalBenchmark.isSome then ["finalBenchmark"] else [])

theorem decodedKeys_subset (s : State) :
    decodedKeys s ⊆ ["activeRebootTransaction", "finalBenchmark"] := by
  intro k hk
  unfold decodedKeys at hk
  rcases List.mem_append.mp hk with hk | hk
  · split at hk
    · exact List.mem_pair.mpr (.inl (List.mem_singleton.mp hk))
    · cases hk
  · split at hk
    · exact List.mem_pair.mpr (.inr (List.mem_singleton.mp hk))
    · cases hk

/-- The rest of a decoded state. -/
theorem get_rest {fields : BTreeMap Value} {s : State}
    (h : s.unknown = BTreeMap.without fields (State.removedKeys ++ decodedKeys s))
    (k : String) :
    s.unknown[k]? = if k ∈ State.removedKeys ++ decodedKeys s then none else fields[k]? := by
  rw [h, BTreeMap.get_without]

theorem get_rest_transaction {fields : BTreeMap Value} {s : State}
    (h : s.unknown = BTreeMap.without fields (State.removedKeys ++ decodedKeys s)) :
    s.unknown["activeRebootTransaction"]? =
      if s.activeRebootTransaction.isSome then none
      else fields["activeRebootTransaction"]? := by
  rw [get_rest h]
  unfold decodedKeys
  cases s.activeRebootTransaction <;> cases s.finalBenchmark <;>
    simp [State.removedKeys]

theorem get_rest_receipt {fields : BTreeMap Value} {s : State}
    (h : s.unknown = BTreeMap.without fields (State.removedKeys ++ decodedKeys s)) :
    s.unknown["finalBenchmark"]? =
      if s.finalBenchmark.isSome then none else fields["finalBenchmark"]? := by
  rw [get_rest h]
  unfold decodedKeys
  cases s.activeRebootTransaction <;> cases s.finalBenchmark <;>
    simp [State.removedKeys]

theorem readState_of_decode {value : Value} {s : State} (h : State.decode value = .ok s) :
    ReadState s := by
  unfold State.decode at h
  obtain ⟨fields, hfields, h⟩ := bind_eq_ok.mp h
  obtain rfl := Except.ok.inj h
  have hmode : ∀ profile, modeForProfile profile ∈ modes := by
    intro profile
    cases profile <;> decide
  constructor
  · exact getD_filter_mem (hmode _)
  · exact getD_filter_mem (by decide)
  · show ((finiteF64 fields["avgFps"]?).getD F64.zero).isFinite = true
    cases havg : finiteF64 fields["avgFps"]? with
    | none => rfl
    | some x => exact isFinite_finiteF64 havg
  · exact fun x hx => readRate_nonnegativeF64 hx
  · show ReadRate ((nonnegativeF64 fields["baselineAvg"]?).getD F64.zero)
    cases havg : nonnegativeF64 fields["baselineAvg"]? with
    | none => exact readRate_zero
    | some x => exact readRate_nonnegativeF64 havg
  · exact fun x hx => readRate_nonnegativeF64 hx
  · exact fun text htext => of_decide_eq_true (Option.filter_eq_some_iff.mp htext).2
  · show (((fields["pagefileMB"]?).bind Value.asU64).filter _).getD 0 = 0 ∨
      (((fields["pagefileMB"]?).bind Value.asU64).filter _).getD 0 ≤ _
    cases hsize : ((fields["pagefileMB"]?).bind Value.asU64).filter fun value =>
        value = 0 || value ≤ MAX_PAGEFILE_MB with
    | none => exact .inl rfl
    | some n => simpa using (Option.filter_eq_some_iff.mp hsize).2
  · intro t ht
    obtain ⟨v, -, hdecode⟩ := decode_of_toOption ht
    exact readTransaction_of_decode hdecode
  · intro r hr
    obtain ⟨v, -, hdecode⟩ := decode_of_toOption hr
    obtain ⟨hrest, havg, hp1⟩ := receipt_of_decode hdecode
    exact receipt_decode_encode hrest havg hp1
  · intro k hk
    exact (@get_rest fields _ rfl k).trans (if_pos (List.mem_append_left _ hk))
  · rw [@get_rest_transaction fields _ rfl]
    exact readTyped_decode _
  · rw [@get_rest_receipt fields _ rfl]
    exact readTyped_decode _

/-- A field that was decoded is not in the rest. -/
theorem rest_decoded {s : State} (h : ReadState s) {k : String}
    (hk : k ∈ State.removedKeys ++ decodedKeys s) : s.unknown[k]? = none := by
  rcases List.mem_append.mp hk with hk | hk
  · exact h.rest k hk
  · have htransaction := h.restTransaction
    have hreceipt := h.restReceipt
    unfold decodedKeys at hk
    rcases List.mem_append.mp hk with hk | hk
    · cases ht : s.activeRebootTransaction with
      | none => simp [ht] at hk
      | some t =>
          rw [ht] at htransaction
          have hname : k = "activeRebootTransaction" := by simpa [ht] using hk
          rw [hname]
          exact htransaction
    · cases hr : s.finalBenchmark with
      | none => simp [hr] at hk
      | some r =>
          rw [hr] at hreceipt
          have hname : k = "finalBenchmark" := by simpa [hr] using hk
          rw [hname]
          exact hreceipt

/-- A field that was not decoded is not written from the typed fields. -/
theorem entry_undecoded {s : State} {k : String}
    (hk : k ∉ State.removedKeys ++ decodedKeys s) : Value.entry s.entries k = none := by
  by_cases htransaction : k = "activeRebootTransaction"
  · subst htransaction
    cases ht : s.activeRebootTransaction with
    | none => exact congrArg (Option.map RebootTransaction.encode) ht
    | some t => exact absurd (by simp [decodedKeys, ht]) hk
  by_cases hreceipt : k = "finalBenchmark"
  · subst hreceipt
    cases hr : s.finalBenchmark with
    | none => exact congrArg (Option.map FinalBenchmarkReceipt.encode) hr
    | some r => exact absurd (by simp [decodedKeys, hr]) hk
  have hname : k ∉ s.entries.map Prod.fst := by
    intro hmem
    have hmem' : k ∈ ["mode", "logLevel", "profile", "fpsCap", "avgFps", "p1Fps",
      "baselineAvg", "baselineP1", "capDate", "gpuInput", "pagefileMB", "workDir",
      "scriptRoot", "phase1SafeModeReady", "activeRebootTransaction",
      "finalBenchmark"] := hmem
    refine hk (List.mem_append_left _ ?_)
    simp only [State.removedKeys, List.mem_cons, List.not_mem_nil, or_false] at hmem' ⊢
    tauto
  have hlookup : s.entries.lookup k = none := by
    rw [List.lookup_eq_none_iff]
    intro entry hentry
    have hne : k ≠ entry.1 := fun heq => hname (heq ▸ List.mem_map_of_mem hentry)
    simpa using hne
  unfold Value.entry
  rw [hlookup]
  rfl

/-- **A state that was read comes back.** -/
theorem state_decode_encode {s : State} (h : ReadState s) :
    State.decode s.encode = .ok s := by
  have hnodup : (s.entries.map Prod.fst).Nodup := by simp [State.entries]
  obtain ⟨fields, hread, hget⟩ := Value.asObject_ofRecord hnodup s.unknown
  have hobject : s.encode.asObject = some fields := hread
  have hnamed : ∀ k ∈ State.removedKeys, fields[k]? = Value.entry s.entries k := by
    intro k hk
    rw [hget, h.rest k hk, Option.none_or]
  have hmode : fields["mode"]? = some (.string s.mode) := hnamed _ (by decide)
  have hlog : fields["logLevel"]? = some (.string s.logLevel) := hnamed _ (by decide)
  have hprofile : fields["profile"]? = some (.string s.profile.asStr) :=
    hnamed _ (by decide)
  have hcap : fields["fpsCap"]? = some (.ofU64 s.fpsCap.toUInt64) := hnamed _ (by decide)
  have havg : fields["avgFps"]? = some (.ofF64 s.avgFps) := hnamed _ (by decide)
  have hp1 : fields["p1Fps"]? = s.p1Fps.map .ofF64 := hnamed _ (by decide)
  have hbase : fields["baselineAvg"]? = if F64.feq s.baselineAvg F64.zero then none
      else some (.ofF64 s.baselineAvg) := hnamed _ (by decide)
  have hbaseP1 : fields["baselineP1"]? = s.baselineP1.map .ofF64 := hnamed _ (by decide)
  have hdate : fields["capDate"]? = s.capDate.map .string := hnamed _ (by decide)
  have hgpu : fields["gpuInput"]? = s.gpuInput.map .string := hnamed _ (by decide)
  have hsize : fields["pagefileMB"]? = some (.ofU64 s.pagefileMb) := hnamed _ (by decide)
  have hwork : fields["workDir"]? = some (.string s.workDir) := hnamed _ (by decide)
  have hroot : fields["scriptRoot"]? = some (.string s.scriptRoot) := hnamed _ (by decide)
  have hready : fields["phase1SafeModeReady"]? = some (.bool s.phase1SafeModeReady) :=
    hnamed _ (by decide)
  have htransaction : typedPreservingMalformed RebootTransaction.decode
      fields["activeRebootTransaction"]? = s.activeRebootTransaction := by
    rw [hget]
    exact typed_read h.restTransaction fun t ht => transaction_decode_encode (h.transaction t ht)
  have hreceipt : typedPreservingMalformed FinalBenchmarkReceipt.decode
      fields["finalBenchmark"]? = s.finalBenchmark := by
    rw [hget]
    exact typed_read h.restReceipt h.receipt
  have hrest : BTreeMap.without fields (State.removedKeys ++ decodedKeys s) = s.unknown := by
    refine BTreeMap.ext fun k => ?_
    rw [BTreeMap.get_without]
    by_cases hk : k ∈ State.removedKeys ++ decodedKeys s
    · rw [if_pos hk, rest_decoded h hk]
    · rw [if_neg hk, hget, entry_undecoded hk, Option.or_none]
  have hgpuText : (s.gpuInput.filter fun text => text ∈ GPU_INPUTS) = s.gpuInput := by
    cases hinput : s.gpuInput with
    | none => rfl
    | some text => rw [Option.filter_some, if_pos (decide_eq_true (h.gpuInput text hinput))]
  have hsizeValue : ((some s.pagefileMb).filter fun value =>
      value = 0 || value ≤ MAX_PAGEFILE_MB).getD 0 = s.pagefileMb := by
    rw [Option.filter_some, if_pos (by simpa using h.pagefileMb), Option.getD_some]
  have hmodeText : ((some s.mode).filter fun value =>
      value ∈ ["AUTO", "CONTROL", "INFORMED", "YOLO", "DRY-RUN"]).getD
        (modeForProfile s.profile) = s.mode := getD_filter_of_mem h.mode
  have hlogText : ((some s.logLevel).filter fun value =>
      value ∈ ["MINIMAL", "NORMAL", "VERBOSE"]).getD defaultLogLevel = s.logLevel :=
    getD_filter_of_mem h.logLevel
  have htext : ∀ text, tolerantString (some (.string text)) = some text := fun _ => rfl
  have hsizeNumber : (some (Value.ofU64 s.pagefileMb)).bind Value.asU64 =
      some s.pagefileMb := rfl
  have hreadyValue : decide (some (Value.bool s.phase1SafeModeReady) = some (.bool true)) =
      s.phase1SafeModeReady := by
    cases s.phase1SafeModeReady <;> decide
  unfold State.decode
  rw [hobject, okOr_some, bind_ok]
  simp only [htransaction, hreceipt, hmode, hlog, hprofile, hcap, havg, hp1, hbase, hbaseP1,
    hdate, hgpu, hsize, hwork, hroot, hready, htext, tolerantString_map, hmodeText, hlogText,
    Option.bind_some, parseProfile_asStr, Option.getD_some, tolerantU32_ofU64,
    finiteF64_ofF64 h.avgFps, nonnegativeF64_map h.p1Fps, baselineAvg_read h.baselineAvg,
    nonnegativeF64_map h.baselineP1, hgpuText, hsizeNumber, hsizeValue, hreadyValue]
  show Except.ok { s with
    unknown := BTreeMap.without fields (State.removedKeys ++ decodedKeys s) } = _
  rw [hrest]

/-! ## The progress -/

/-- A progress as the decoder makes it. -/
structure ReadProgress (p : Progress) : Prop where
  phase : p.phase ≤ 3
  completed : ∀ k ∈ p.completedSteps, validProgressKey k = true
  skipped : ∀ k ∈ p.skippedSteps, validProgressKey k = true
  advisories : ∀ k a, p.advisories[k]? = some a →
    validProgressKey k = true ∧ a.reason.isEmpty = false ∧ a.unknown["reason"]? = none
  rest : StableProgress p

theorem advisory_of_decode {value : Value} {a : AdvisoryResolution}
    (h : AdvisoryResolution.decode value = .ok a) : a.unknown["reason"]? = none := by
  unfold AdvisoryResolution.decode at h
  split at h
  · cases h
  · obtain ⟨_, -, h⟩ := bind_eq_ok.mp h
    obtain rfl := Except.ok.inj h
    show (BTreeMap.without _ ["reason"])["reason"]? = none
    rw [BTreeMap.get_without, if_pos (by simp)]

theorem advisory_decode_encode {a : AdvisoryResolution} (h : a.unknown["reason"]? = none) :
    AdvisoryResolution.decode a.encode = .ok a := by
  have hkeys : [("reason", some (Value.string a.reason))].map Prod.fst = ["reason"] := rfl
  have hname : ∀ k ∈ ["reason"], a.unknown[k]? = none := by
    intro k hk
    rwa [List.mem_singleton.mp hk]
  obtain ⟨fields, hread, hget, hrest⟩ := read_record hkeys (by decide) hname
  have hobject : a.encode.asObject = some fields := hread
  have hreason : requiredString "reason" fields = .ok a.reason :=
    requiredString_of_get (hget _ (by simp))
  unfold AdvisoryResolution.decode
  rw [hobject]
  simp only [hreason, bind_ok, hrest]
  rfl

theorem mem_tolerantKeys {value : Option Value} {k : String} (h : k ∈ tolerantKeys value) :
    validProgressKey k = true := by
  unfold tolerantKeys at h
  exact (List.mem_filter.mp (List.mem_toFinset.mp h)).2

theorem tolerantAdvisory_eq_some {k : String} {value : Value} {a : AdvisoryResolution}
    (h : tolerantAdvisory k value = some a) :
    validProgressKey k = true ∧ a.reason.isEmpty = false ∧ a.unknown["reason"]? = none := by
  unfold tolerantAdvisory at h
  split at h
  · rename_i hvalid
    obtain ⟨hdecode, hreason⟩ := Option.filter_eq_some_iff.mp h
    refine ⟨hvalid, by simpa using hreason, ?_⟩
    cases hresult : AdvisoryResolution.decode value with
    | ok b =>
        rw [hresult] at hdecode
        obtain rfl := Option.some.inj hdecode
        exact advisory_of_decode hresult
    | error e =>
        rw [hresult] at hdecode
        cases hdecode
  · cases h

theorem readProgress_of_decode {value : Value} {p : Progress}
    (h : Progress.decode value = .ok p) : ReadProgress p := by
  have hrest := stableProgress_of_decode h
  unfold Progress.decode at h
  split at h
  · cases h
  · rename_i fields hfields
    obtain rfl := Except.ok.inj h
    refine ⟨?_, fun k hk => mem_tolerantKeys hk, fun k hk => mem_tolerantKeys hk, ?_, hrest⟩
    · show ((tolerantU8 fields["phase"]?).filter (· ≤ 3)).getD 0 ≤ 3
      cases hphase : (tolerantU8 fields["phase"]?).filter (· ≤ 3) with
      | none => decide
      | some n => simpa using (Option.filter_eq_some_iff.mp hphase).2
    · intro k a ha
      have hget : ((((fields["advisories"]?).bind Value.asObject).getD ∅).filterMap
          tolerantAdvisory)[k]? = some a := ha
      rw [Std.ExtTreeMap.getElem?_filterMap'] at hget
      obtain ⟨v, -, hv⟩ := Option.bind_eq_some_iff.mp hget
      exact tolerantAdvisory_eq_some hv

/-- A written map of texts. -/
theorem timestamps_read (m : BTreeMap String) :
    (m.map fun _ text => Value.string text).filterMap (fun _ value => value.asStr) = m := by
  refine BTreeMap.ext fun k => ?_
  rw [Std.ExtTreeMap.getElem?_filterMap', Std.ExtTreeMap.getElem?_map]
  cases m[k]? <;> rfl

/-- A written map of advisories. -/
theorem advisories_read {m : BTreeMap AdvisoryResolution}
    (h : ∀ k a, m[k]? = some a →
      validProgressKey k = true ∧ a.reason.isEmpty = false ∧ a.unknown["reason"]? = none) :
    (m.map fun _ a => a.encode).filterMap tolerantAdvisory = m := by
  refine BTreeMap.ext fun k => ?_
  rw [Std.ExtTreeMap.getElem?_filterMap', Std.ExtTreeMap.getElem?_map]
  cases hk : m[k]? with
  | none => rfl
  | some a =>
      obtain ⟨hvalid, hreason, hunknown⟩ := h k a hk
      show tolerantAdvisory k a.encode = some a
      unfold tolerantAdvisory
      rw [if_pos hvalid, advisory_decode_encode hunknown]
      simp [Except.toOption, hreason]

/-- Valid keys come back. -/
theorem keys_read {keys : Finset String} (h : ∀ k ∈ keys, validProgressKey k = true) :
    tolerantKeys (some (Progress.encodeKeys keys)) = keys := by
  rw [Progress.tolerantKeys_encodeKeys]
  exact Finset.filter_true_of_mem h

/-- **A progress that was read comes back.** -/
theorem progress_decode_encode {p : Progress} (h : ReadProgress p) :
    Progress.decode p.encode = .ok p := by
  have hkeys : p.entries.map Prod.fst = Progress.knownKeys := rfl
  obtain ⟨fields, hread, hget, hrest⟩ := read_record hkeys (by decide) h.rest
  have hobject : p.encode.asObject = some fields := hread
  have hphase : fields["phase"]? = some (.ofU64 p.phase.toUInt64) := hget _ (by decide)
  have hlast : fields["lastCompletedStep"]? = some (.ofU64 p.lastCompletedStep.toUInt64) :=
    hget _ (by decide)
  have hlastSkipped : fields["lastSkippedStep"]? =
      some (.ofU64 p.lastSkippedStep.toUInt64) := hget _ (by decide)
  have hcompleted : fields["completedSteps"]? =
      some (Progress.encodeKeys p.completedSteps) := hget _ (by decide)
  have hskipped : fields["skippedSteps"]? =
      some (Progress.encodeKeys p.skippedSteps) := hget _ (by decide)
  have htimestamps : fields["timestamps"]? =
      some (.ofObject (p.timestamps.map fun _ text => .string text)) := hget _ (by decide)
  have hadvisories : fields["advisories"]? = if p.advisories.isEmpty then none
      else some (.ofObject (p.advisories.map fun _ a => a.encode)) := hget _ (by decide)
  have hphaseValue : ((some p.phase).filter (· ≤ 3)).getD 0 = p.phase := by
    rw [Option.filter_some, if_pos (decide_eq_true h.phase), Option.getD_some]
  have hadvised : (((if p.advisories.isEmpty then none
      else some (Value.ofObject (p.advisories.map fun _ a => a.encode))).bind
        Value.asObject).getD ∅).filterMap tolerantAdvisory = p.advisories := by
    cases hempty : p.advisories.isEmpty with
    | true =>
        rw [Std.ExtTreeMap.isEmpty_iff.mp hempty]
        rfl
    | false =>
        show (((Value.ofObject _).asObject).getD ∅).filterMap tolerantAdvisory = _
        rw [Value.asObject_ofObject]
        exact advisories_read h.advisories
  unfold Progress.decode
  rw [hobject]
  simp only [hphase, hlast, hlastSkipped, hcompleted, hskipped, htimestamps, hadvisories,
    tolerantU8_ofU64, hphaseValue, Option.getD_some, keys_read h.completed,
    keys_read h.skipped, Option.bind_some, Value.asObject_ofObject, timestamps_read,
    hadvised, hrest]

/-! ## The codecs -/

/-- The fields of a state. -/
def stateKeys : List String :=
  State.removedKeys ++ ["activeRebootTransaction", "finalBenchmark"]

/-- What the codec of the state does with a document. -/
structure StateDocument (document : Value) : Prop where
  stable : ∃ s, State.decode document = .ok s ∧ State.decode s.encode = .ok s
  kept : ∀ s, Generation State.decode State.encode document s →
    ∀ k, k ∉ stateKeys → field s.encode k = field document k
  transaction : ∀ s, Generation State.decode State.encode document s →
    ∀ v, field document "activeRebootTransaction" = some v → v.asObject = none →
      field s.encode "activeRebootTransaction" = some v ∧ s.validate.isOk = false
  receipt : ∀ s, Generation State.decode State.encode document s →
    ∀ v e, field document "finalBenchmark" = some v →
      FinalBenchmarkReceipt.decode v = .error e →
      field s.encode "finalBenchmark" = some v ∧ s.validate.isOk = false

/-- What the codec of the progress does with a document. -/
structure ProgressDocument (document : Value) : Prop where
  stable : ∃ p, Progress.decode document = .ok p ∧ Progress.decode p.encode = .ok p
  kept : ∀ p, Generation Progress.decode Progress.encode document p →
    ∀ k, k ∉ Progress.knownKeys → field p.encode k = field document k

/-- A transaction comes back, and with it the stages it has authority at. -/
def TransactionDocument (document : Value) : Prop :=
  ∀ t, RebootTransaction.decode document = .ok t →
    RebootTransaction.decode t.encode = .ok t ∧
      ∀ t', RebootTransaction.decode t.encode = .ok t' →
        ∀ stage, t'.isAuthorizedAt stage = t.isAuthorizedAt stage

section

variable {document : Value} {fields : BTreeMap Value} {s : State}

/-- The typed fields and the rest of a decoded state. -/
theorem decode_state_fields (hfields : document.asObject = some fields)
    (h : State.decode document = .ok s) :
    s.activeRebootTransaction = typedPreservingMalformed RebootTransaction.decode
        fields["activeRebootTransaction"]? ∧
      s.finalBenchmark = typedPreservingMalformed FinalBenchmarkReceipt.decode
        fields["finalBenchmark"]? ∧
      s.unknown = BTreeMap.without fields (State.removedKeys ++ decodedKeys s) := by
  unfold State.decode at h
  rw [hfields] at h
  obtain rfl := Except.ok.inj h
  exact ⟨rfl, rfl, rfl⟩

/-- What a written state has under a key. -/
theorem field_encode (s : State) (k : String) :
    field s.encode k = (s.unknown[k]?).or (Value.entry s.entries k) := by
  have hnodup : (s.entries.map Prod.fst).Nodup := by simp [State.entries]
  obtain ⟨written, hread, hget⟩ := Value.asObject_ofRecord hnodup s.unknown
  have hobject : s.encode.asObject = some written := hread
  unfold field
  rw [hobject]
  exact hget k

/-- A state with an entry of the rest under this name is not valid. -/
theorem validate_malformed {k : String} {v : Value}
    (hk : k ∈ ["activeRebootTransaction", "finalBenchmark"])
    (h : s.unknown[k]? = some v) : s.validate.isOk = false := by
  have hcontains : s.unknown.contains k = true := by
    rw [Std.ExtTreeMap.contains_eq_isSome_getElem?, h]
    rfl
  unfold State.validate
  rcases List.mem_pair.mp hk with rfl | rfl
  · rw [hcontains]
    rfl
  · rw [hcontains]
    cases s.unknown.contains "activeRebootTransaction" <;> rfl

theorem stateCodec (hfields : document.asObject = some fields) :
    StateDocument document := by
  obtain ⟨s, hs⟩ : ∃ s, State.decode document = .ok s := by
    unfold State.decode
    rw [hfields]
    exact ⟨_, rfl⟩
  have hread := readState_of_decode hs
  have hback := state_decode_encode hread
  have hsame : ∀ s', Generation State.decode State.encode document s' → s' = s :=
    fun _ hs' => hs'.eq hs hback
  obtain ⟨htransaction, hreceipt, hrest⟩ := decode_state_fields hfields hs
  have hdocument : ∀ k, field document k = fields[k]? := by
    intro k
    unfold field
    rw [hfields]
    rfl
  refine ⟨⟨s, hs, hback⟩, ?_, ?_, ?_⟩
  · intro s' hs' k hk
    obtain rfl := hsame s' hs'
    have hnot : k ∉ State.removedKeys ++ decodedKeys s' := by
      intro hmem
      rcases List.mem_append.mp hmem with hmem | hmem
      · exact hk (List.mem_append_left _ hmem)
      · exact hk (List.mem_append_right _ (decodedKeys_subset s' hmem))
    rw [field_encode, entry_undecoded hnot, Option.or_none, get_rest hrest, if_neg hnot,
      hdocument]
  · intro s' hs' v hv hobject
    obtain rfl := hsame s' hs'
    rw [hdocument] at hv
    have hnone : s'.activeRebootTransaction = none := by
      rw [htransaction, hv]
      show (RebootTransaction.decode v).toOption = none
      unfold RebootTransaction.decode
      rw [hobject]
      rfl
    have hunknown : s'.unknown["activeRebootTransaction"]? = some v := by
      rw [get_rest_transaction hrest, hnone]
      exact hv
    refine ⟨?_, validate_malformed (by simp) hunknown⟩
    rw [field_encode, hunknown]
    rfl
  · intro s' hs' v e hv hdecode
    obtain rfl := hsame s' hs'
    rw [hdocument] at hv
    have hnone : s'.finalBenchmark = none := by
      rw [hreceipt, hv]
      show (FinalBenchmarkReceipt.decode v).toOption = none
      rw [hdecode]
      rfl
    have hunknown : s'.unknown["finalBenchmark"]? = some v := by
      rw [get_rest_receipt hrest, hnone]
      exact hv
    refine ⟨?_, validate_malformed (by simp) hunknown⟩
    rw [field_encode, hunknown]
    rfl

theorem progressCodec (hfields : document.asObject = some fields) :
    ProgressDocument document := by
  obtain ⟨p, hp⟩ : ∃ p, Progress.decode document = .ok p := by
    unfold Progress.decode
    rw [hfields]
    exact ⟨_, rfl⟩
  have hread := readProgress_of_decode hp
  have hback := progress_decode_encode hread
  refine ⟨⟨p, hp, hback⟩, ?_⟩
  intro p' hp' k hk
  obtain rfl := hp'.eq hp hback
  have hunknown : p'.unknown = BTreeMap.without fields Progress.knownKeys := by
    unfold Progress.decode at hp
    rw [hfields] at hp
    obtain rfl := Except.ok.inj hp
    rfl
  have hnodup : (p'.entries.map Prod.fst).Nodup := by simp [Progress.entries]
  obtain ⟨written, hwritten, hget⟩ := Value.asObject_ofRecord hnodup p'.unknown
  have hobject : p'.encode.asObject = some written := hwritten
  have hentry : Value.entry p'.entries k = none := by
    have hkeys : p'.entries.map Prod.fst = Progress.knownKeys := rfl
    have hlookup : p'.entries.lookup k = none := by
      rw [List.lookup_eq_none_iff]
      intro entry hmem
      have hne : k ≠ entry.1 :=
        fun heq => hk (hkeys ▸ heq ▸ List.mem_map_of_mem hmem)
      simpa using hne
    unfold Value.entry
    rw [hlookup]
    rfl
  unfold field
  rw [hobject, hfields]
  show written[k]? = fields[k]?
  rw [hget, hentry, Option.or_none, hunknown, BTreeMap.get_without, if_neg hk]

end

theorem transactionCodec (document : Value) : TransactionDocument document := by
  intro t ht
  have hback := transaction_decode_encode (readTransaction_of_decode ht)
  refine ⟨hback, ?_⟩
  intro t' ht' stage
  rw [Except.ok.inj (ht'.symm.trans hback)]

/-- **The codecs are stable and hide nothing.** -/
theorem persistedCodecs (object : List (String × Value)) :
    StateDocument (.object object) ∧ ProgressDocument (.object object) ∧
      TransactionDocument (.object object) :=
  ⟨stateCodec rfl, progressCodec rfl, transactionCodec _⟩

end FrametimeCfg.Verified.StateCodec
