import Bindery.Fault

/-!
Contract: what every operation on a book returns.

Owns:
- `Outcome`: whether the operation succeeded, its name, its data, warnings, the error of a failure,
  and remarks such as the timings of a run;
- the record of an outcome, with its members in a fixed order.
-/

namespace Bindery

structure Failure where
  code : String
  message : String
  detail : Entries
deriving Repr, BEq

structure Outcome where
  ok : Bool
  op : String
  data : Entries
  warnings : List String
  error : Option Failure
  remarks : Option Entries
deriving Repr, BEq

namespace Failure

def ofBuildError (error : BuildError) : Failure :=
  ⟨error.code, error.message, error.detail⟩

/-- The failure that reports a refusal of the file system. -/
def ofIoFault (fault : IoFault) : Failure :=
  ⟨"IO_ERROR", fault.message,
    [("path", if fault.file.isEmpty then .null else .str fault.file)]⟩

def toValue (failure : Failure) : Value :=
  .map [("code", .str failure.code), ("message", .str failure.message),
    ("detail", .map failure.detail)]

end Failure

namespace Outcome

def success (op : String) (data : Entries) (warnings : List String) : Outcome :=
  ⟨true, op, data, warnings, none, none⟩

def failed (op : String) (failure : Failure) : Outcome :=
  ⟨false, op, [], [], some failure, none⟩

def remark (outcome : Outcome) (key : String) (value : Value) : Outcome :=
  { outcome with remarks := some ((outcome.remarks.getD []).set key value) }

def toValue (outcome : Outcome) : Value :=
  .map [
    ("ok", .bool outcome.ok), ("op", .str outcome.op), ("data", .map outcome.data),
    ("warnings", .list (outcome.warnings.map .str)),
    ("error", (outcome.error.map Failure.toValue).getD .null),
    ("meta", (outcome.remarks.map Value.map).getD .null)]

end Outcome

end Bindery
