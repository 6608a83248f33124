set_option autoImplicit false

/-! # Actions and statuses

Each frame names the action it belongs to, and each response the status of its request. Both are
one-byte codes; codes outside the two lists are refused by the readers of frames. -/

namespace KnxGateway

/-! ## Actions -/

/-- What a frame is about. -/
inductive Action where
  | readRequest
  | writeRequest
  | readResponse
  | writeResponse
  | generalMessage
deriving DecidableEq

namespace Action

def all : List Action :=
  [readRequest, writeRequest, readResponse, writeResponse, generalMessage]

def code : Action → UInt8
  | readRequest => 0
  | writeRequest => 1
  | readResponse => 2
  | writeResponse => 3
  | generalMessage => 4

def name : Action → String
  | readRequest => "ReadRequest"
  | writeRequest => "WriteRequest"
  | readResponse => "ReadResponse"
  | writeResponse => "WriteResponse"
  | generalMessage => "GeneralMessage"

/-- Whether a client may send frames of this action. -/
def isRequest : Action → Bool
  | readRequest | writeRequest => true
  | readResponse | writeResponse | generalMessage => false

def ofCode? (code : UInt8) : Option Action :=
  all.find? fun action => action.code = code

theorem ofCode?_code (action : Action) : ofCode? action.code = some action := by
  cases action <;> rfl

/-- A code names an action exactly when it is at most 4. -/
theorem ofCode?_eq_none_iff (code : UInt8) : ofCode? code = none ↔ 4 < code.toNat := by
  simp only [ofCode?, all, List.find?_eq_none, List.mem_cons, List.not_mem_nil, or_false]
  have := code.toNat_lt
  simp [Action.code, ← UInt8.toNat_inj]
  omega

end Action

/-! ## Statuses -/

/-- How a request ended, or how it stands. -/
inductive Status where
  | success
  | error
  | errorRequest
  | errorTimeout
  | errorGroupAddress
  | errorIncompatibleDatapointType
  | errorClientNotAuthorized
deriving DecidableEq

namespace Status

def all : List Status :=
  [success, error, errorRequest, errorTimeout, errorGroupAddress, errorIncompatibleDatapointType,
    errorClientNotAuthorized]

def code : Status → UInt8
  | success => 0
  | error => 1
  | errorRequest => 2
  | errorTimeout => 3
  | errorGroupAddress => 4
  | errorIncompatibleDatapointType => 5
  | errorClientNotAuthorized => 6

def text : Status → String
  | success => "SUCCESS"
  | error => "ERROR"
  | errorRequest => "ERROR_REQUEST"
  | errorTimeout => "ERROR_TIMEOUT"
  | errorGroupAddress => "ERROR_GROUP_ADDRESS"
  | errorIncompatibleDatapointType => "ERROR_INCOMPATIBLE_DATA_POINT_TYPE"
  | errorClientNotAuthorized => "ERROR_CLIENT_NOT_AUTHORIZED"

/-- Whether the status tells of no error. -/
def isSuccess (status : Status) : Bool :=
  status == success

def ofCode? (code : UInt8) : Option Status :=
  all.find? fun status => status.code = code

theorem ofCode?_code (status : Status) : ofCode? status.code = some status := by
  cases status <;> rfl

/-- A code names a status exactly when it is at most 6. -/
theorem ofCode?_eq_none_iff (code : UInt8) : ofCode? code = none ↔ 6 < code.toNat := by
  simp only [ofCode?, all, List.find?_eq_none, List.mem_cons, List.not_mem_nil, or_false]
  have := code.toNat_lt
  simp [Status.code, ← UInt8.toNat_inj]
  omega

end Status

end KnxGateway
