import FrametimeCfg.Northclock.Protocol

/-!
# The gate of the wire

Both layouts tile their buffers, so the buffers that decode are the encodings, each of one
value.  The gate of the kernel asks what the validator of the user side asks, in another
order.
-/

namespace FrametimeCfg.Verified.DriverWire

open FrametimeCfg.Northclock.Protocol
open FrametimeCfg.Lib.Checks
open FrametimeCfg.Lib.Layout
open FrametimeCfg.Lib.Wide

/-! ## Layouts -/

/-- The places of a header. -/
def headerPlaces : List Place := [⟨0, 4⟩, ⟨4, 2⟩, ⟨6, 2⟩, ⟨8, 8⟩]

/-- The fields of a header, as bytes. -/
def headerFields (header : ProtocolHeader) : List (List UInt8) :=
  [u32.encode header.magic, u16.encode header.version, u16.encode header.structureSize,
    u64.encode header.sequence]

/-- The places of a request. -/
def requestPlaces : List Place :=
  headerPlaces ++ [⟨16, 2⟩, ⟨18, 12⟩, ⟨30, 1⟩, ⟨31, 1⟩, ⟨32, 1⟩, ⟨33, 1⟩, ⟨34, 2⟩, ⟨36, 2⟩,
    ⟨38, 4⟩]

/-- The fields of a request, as bytes. -/
def requestFields (request : CurveOptimizerRequest) : List (List UInt8) :=
  headerFields request.header ++ [u16.encode request.command,
    (byteArray 12).encode request.processor.vendor, u8.encode request.processor.family,
    u8.encode request.processor.model, u8.encode request.processor.stepping,
    u8.encode request.processor.protocolTableVersion, u16.encode request.logicalCoreIndex,
    i16.encode request.offsetSteps, u32.encode request.watchdogTimeoutMs]

/-- The places of a response. -/
def responsePlaces : List Place :=
  headerPlaces ++ [⟨16, 4⟩, ⟨20, 2⟩, ⟨22, 2⟩, ⟨24, 4⟩]

/-- The fields of a response, as bytes. -/
def responseFields (response : CurveOptimizerResponse) : List (List UInt8) :=
  headerFields response.header ++ [u32.encode response.status,
    i16.encode response.capturedOffsetSteps, i16.encode response.readbackOffsetSteps,
    u32.encode response.reserved]

theorem requestPlaces_tile : Tiles 0 requestPlaces 42 := by decide

theorem responsePlaces_tile : Tiles 0 responsePlaces 28 := by decide

theorem requestFields_fit (request : CurveOptimizerRequest) :
    Fitting requestPlaces (requestFields request) := by
  refine .cons (u32.length_encode _) (.cons (u16.length_encode _) (.cons (u16.length_encode _)
    (.cons (u64.length_encode _) (.cons (u16.length_encode _)
    (.cons ((byteArray 12).length_encode _) (.cons (u8.length_encode _)
    (.cons (u8.length_encode _) (.cons (u8.length_encode _) (.cons (u8.length_encode _)
    (.cons (u16.length_encode _) (.cons (i16.length_encode _)
    (.cons (u32.length_encode _) .nil))))))))))))

theorem responseFields_fit (response : CurveOptimizerResponse) :
    Fitting responsePlaces (responseFields response) := by
  refine .cons (u32.length_encode _) (.cons (u16.length_encode _) (.cons (u16.length_encode _)
    (.cons (u64.length_encode _) (.cons (u32.length_encode _) (.cons (i16.length_encode _)
    (.cons (i16.length_encode _) (.cons (u32.length_encode _) .nil)))))))

/-! ## Requests -/

/-- **An encoded request** is its fields, one after the other. -/
theorem encode_request (request : CurveOptimizerRequest) :
    request.encode = (requestFields request).flatten :=
  written_zeros requestPlaces_tile (requestFields_fit request)

theorem length_request (request : CurveOptimizerRequest) : request.encode.length = 42 := by
  have hlength := length_flatten requestPlaces_tile (requestFields_fit request)
  rw [encode_request]
  omega

/-- The fields of an encoded request, at their places. -/
theorem fieldsAt_request (request : CurveOptimizerRequest) :
    requestPlaces.map (fieldAt request.encode) = requestFields request := by
  rw [encode_request]
  exact fieldsAt_flatten requestPlaces_tile (requestFields_fit request)

theorem decode_encode_request (request : CurveOptimizerRequest) :
    CurveOptimizerRequest.decode request.encode = .ok request := by
  have hfields := fieldsAt_request request
  simp only [requestPlaces, headerPlaces, requestFields, headerFields, List.cons_append,
    List.nil_append, List.map_cons, List.map_nil, List.cons.injEq, and_true] at hfields
  obtain ⟨h₀, h₄, h₆, h₈, h₁₆, h₁₈, h₃₀, h₃₁, h₃₂, h₃₃, h₃₄, h₃₆, h₃₈⟩ := hfields
  have hsize : decide (request.encode.length ≠ CURVE_OPTIMIZER_REQUEST_WIRE_SIZE.toNat) =
      false := by
    rw [length_request]
    decide
  rw [CurveOptimizerRequest.decode, hsize]
  simp only [reject_false, bind_ok, readU8, readU16, readU32, readU64, readI16, h₀, h₄, h₆, h₈,
    h₁₆, h₁₈, h₃₀, h₃₁, h₃₂, h₃₃, h₃₄, h₃₆, h₃₈, FieldType.decode_encode]
  rfl

theorem encode_decode_request {bytes : List UInt8} {request : CurveOptimizerRequest}
    (h : CurveOptimizerRequest.decode bytes = .ok request) : request.encode = bytes := by
  simp only [CurveOptimizerRequest.decode, bind_eq_ok, reject_eq_ok, decide_eq_false_iff_not,
    not_not] at h
  obtain ⟨_, hlength, hrequest⟩ := h
  have htile : Tiles 0 requestPlaces bytes.length := by
    rw [hlength]
    exact requestPlaces_tile
  have hfields : requestFields request = requestPlaces.map (fieldAt bytes) := by
    have hfit := fitting_map_fieldAt htile
    simp only [requestPlaces, headerPlaces, List.cons_append, List.nil_append, List.map_cons,
      List.map_nil, List.forall₂_cons, List.forall₂_nil_right_iff, and_true] at hfit
    obtain ⟨h₀, h₄, h₆, h₈, h₁₆, h₁₈, h₃₀, h₃₁, h₃₂, h₃₃, h₃₄, h₃₆, h₃₈⟩ := hfit
    cases hrequest
    simp only [requestFields, headerFields, requestPlaces, headerPlaces, List.cons_append,
      List.nil_append, List.map_cons, List.map_nil, readU8, readU16, readU32, readU64, readI16]
    rw [u32.encode_decode _ h₀, u16.encode_decode _ h₄, u16.encode_decode _ h₆,
      u64.encode_decode _ h₈, u16.encode_decode _ h₁₆, (byteArray 12).encode_decode _ h₁₈,
      u8.encode_decode _ h₃₀, u8.encode_decode _ h₃₁, u8.encode_decode _ h₃₂,
      u8.encode_decode _ h₃₃, u16.encode_decode _ h₃₄, i16.encode_decode _ h₃₆,
      u32.encode_decode _ h₃₈]
  rw [encode_request, hfields, flatten_map_fieldAt htile, List.drop_zero]

/-- **The buffers that decode** are the encodings. -/
theorem decode_request_eq_ok {bytes : List UInt8} {request : CurveOptimizerRequest} :
    CurveOptimizerRequest.decode bytes = .ok request ↔ bytes = request.encode := by
  refine ⟨fun h => (encode_decode_request h).symm, ?_⟩
  rintro rfl
  exact decode_encode_request request

/-! ## Responses -/

/-- **An encoded response** is its fields, one after the other. -/
theorem encode_response (response : CurveOptimizerResponse) :
    response.encode = (responseFields response).flatten :=
  written_zeros responsePlaces_tile (responseFields_fit response)

theorem length_response (response : CurveOptimizerResponse) : response.encode.length = 28 := by
  have hlength := length_flatten responsePlaces_tile (responseFields_fit response)
  rw [encode_response]
  omega

/-- The fields of an encoded response, at their places. -/
theorem fieldsAt_response (response : CurveOptimizerResponse) :
    responsePlaces.map (fieldAt response.encode) = responseFields response := by
  rw [encode_response]
  exact fieldsAt_flatten responsePlaces_tile (responseFields_fit response)

theorem decode_encode_response (response : CurveOptimizerResponse) :
    CurveOptimizerResponse.decode response.encode = .ok response := by
  have hfields := fieldsAt_response response
  simp only [responsePlaces, headerPlaces, responseFields, headerFields, List.cons_append,
    List.nil_append, List.map_cons, List.map_nil, List.cons.injEq, and_true] at hfields
  obtain ⟨h₀, h₄, h₆, h₈, h₁₆, h₂₀, h₂₂, h₂₄⟩ := hfields
  have hsize : decide (response.encode.length ≠ CURVE_OPTIMIZER_RESPONSE_WIRE_SIZE.toNat) =
      false := by
    rw [length_response]
    decide
  rw [CurveOptimizerResponse.decode, hsize]
  simp only [reject_false, bind_ok, readU16, readU32, readU64, readI16, h₀, h₄, h₆, h₈, h₁₆,
    h₂₀, h₂₂, h₂₄, FieldType.decode_encode]
  rfl

theorem encode_decode_response {bytes : List UInt8} {response : CurveOptimizerResponse}
    (h : CurveOptimizerResponse.decode bytes = .ok response) : response.encode = bytes := by
  simp only [CurveOptimizerResponse.decode, bind_eq_ok, reject_eq_ok, decide_eq_false_iff_not,
    not_not] at h
  obtain ⟨_, hlength, hresponse⟩ := h
  have htile : Tiles 0 responsePlaces bytes.length := by
    rw [hlength]
    exact responsePlaces_tile
  have hfields : responseFields response = responsePlaces.map (fieldAt bytes) := by
    have hfit := fitting_map_fieldAt htile
    simp only [responsePlaces, headerPlaces, List.cons_append, List.nil_append, List.map_cons,
      List.map_nil, List.forall₂_cons, List.forall₂_nil_right_iff, and_true] at hfit
    obtain ⟨h₀, h₄, h₆, h₈, h₁₆, h₂₀, h₂₂, h₂₄⟩ := hfit
    cases hresponse
    simp only [responseFields, headerFields, responsePlaces, headerPlaces, List.cons_append,
      List.nil_append, List.map_cons, List.map_nil, readU16, readU32, readU64, readI16]
    rw [u32.encode_decode _ h₀, u16.encode_decode _ h₄, u16.encode_decode _ h₆,
      u64.encode_decode _ h₈, u32.encode_decode _ h₁₆, i16.encode_decode _ h₂₀,
      i16.encode_decode _ h₂₂, u32.encode_decode _ h₂₄]
  rw [encode_response, hfields, flatten_map_fieldAt htile, List.drop_zero]

theorem decode_response_eq_ok {bytes : List UInt8} {response : CurveOptimizerResponse} :
    CurveOptimizerResponse.decode bytes = .ok response ↔ bytes = response.encode := by
  refine ⟨fun h => (encode_decode_response h).symm, ?_⟩
  rintro rfl
  exact decode_encode_response response

/-! ## The gate -/

/-- The gate and the validator ask the same. -/
theorem validateCurveOptimizerRequest_eq_success {request : CurveOptimizerRequest} :
    validateCurveOptimizerRequest request = .success ↔ request.validate = true := by
  rw [validateCurveOptimizerRequest, CurveOptimizerRequest.validate]
  cases request.header.validForSize CURVE_OPTIMIZER_REQUEST_WIRE_SIZE <;>
    cases request.hasSupportedCommand <;>
    cases request.processor.hasRegisteredProtocolTable <;>
    cases request.valuesAreBounded <;> simp

theorem validateBytes_eq_success {bytes : List UInt8} :
    validateCurveOptimizerRequestBytes bytes = .success ↔
      ∃ request : CurveOptimizerRequest, bytes = request.encode ∧ request.validate = true := by
  rw [validateCurveOptimizerRequestBytes]
  constructor
  · intro h
    cases hdecode : CurveOptimizerRequest.decode bytes with
    | error e =>
      rw [hdecode] at h
      cases h
    | ok request =>
      rw [hdecode] at h
      exact ⟨request, decode_request_eq_ok.mp hdecode,
        validateCurveOptimizerRequest_eq_success.mp h⟩
  · rintro ⟨request, rfl, hvalid⟩
    rw [decode_encode_request]
    exact validateCurveOptimizerRequest_eq_success.mpr hvalid

/-- The signed field of an encoded request. -/
theorem offset_request (request : CurveOptimizerRequest) :
    fieldAt request.encode ⟨36, 2⟩ = i16.encode request.offsetSteps := by
  have hfields := fieldsAt_request request
  simp only [requestPlaces, headerPlaces, requestFields, headerFields, List.cons_append,
    List.nil_append, List.map_cons, List.map_nil, List.cons.injEq] at hfields
  obtain ⟨_, _, _, _, _, _, _, _, _, _, _, h₃₆, _⟩ := hfields
  exact h₃₆

/-- The signed fields of an encoded response. -/
theorem offsets_response (response : CurveOptimizerResponse) :
    fieldAt response.encode ⟨20, 2⟩ = i16.encode response.capturedOffsetSteps ∧
    fieldAt response.encode ⟨22, 2⟩ = i16.encode response.readbackOffsetSteps := by
  have hfields := fieldsAt_response response
  simp only [responsePlaces, headerPlaces, responseFields, headerFields, List.cons_append,
    List.nil_append, List.map_cons, List.map_nil, List.cons.injEq] at hfields
  obtain ⟨_, _, _, _, _, h₂₀, h₂₂, _⟩ := hfields
  exact ⟨h₂₀, h₂₂⟩

/-- **The gate of the wire is exact.**  A buffer decodes to a value just when it is the
encoding of the value; the gate lets a buffer through just when it encodes a request that the
validator accepts; and the signed fields are numbers in two's complement. -/
theorem driverWire :
    (∀ (bytes : List UInt8) (request : CurveOptimizerRequest),
      CurveOptimizerRequest.decode bytes = .ok request ↔ bytes = request.encode) ∧
    (∀ (bytes : List UInt8) (response : CurveOptimizerResponse),
      CurveOptimizerResponse.decode bytes = .ok response ↔ bytes = response.encode) ∧
    (∀ bytes : List UInt8, validateCurveOptimizerRequestBytes bytes = .success ↔
      ∃ request : CurveOptimizerRequest, bytes = request.encode ∧ request.validate = true) ∧
    (∀ request : CurveOptimizerRequest,
      validateCurveOptimizerRequest request = .success ↔ request.validate = true) ∧
    (∀ request : CurveOptimizerRequest, request.offsetSteps.toInt =
      (leValue (fieldAt request.encode ⟨36, 2⟩) : Int).bmod 65536) ∧
    ∀ response : CurveOptimizerResponse,
      response.capturedOffsetSteps.toInt =
        (leValue (fieldAt response.encode ⟨20, 2⟩) : Int).bmod 65536 ∧
      response.readbackOffsetSteps.toInt =
        (leValue (fieldAt response.encode ⟨22, 2⟩) : Int).bmod 65536 := by
  refine ⟨fun _ _ => decode_request_eq_ok, fun _ _ => decode_response_eq_ok,
    fun _ => validateBytes_eq_success, fun _ => validateCurveOptimizerRequest_eq_success,
    fun request => ?_, fun response => ?_⟩
  · rw [offset_request]
    exact toInt_eq_bmod request.offsetSteps
  · rw [(offsets_response response).1, (offsets_response response).2]
    exact ⟨toInt_eq_bmod response.capturedOffsetSteps,
      toInt_eq_bmod response.readbackOffsetSteps⟩

end FrametimeCfg.Verified.DriverWire
