import ReplySchema.Number.Binary64
import ReplySchema.OptionError

/-! # Rounding to integers

How a fractional number becomes an integer.  Rounding to the nearest adds one half and
goes down, so a half goes up, also for negative numbers.
-/

set_option autoImplicit false

namespace ReplySchema

/-- A way of rounding to an integer. -/
inductive Rounding where
  | trunc
  | ceil
  | floor
  | round
deriving DecidableEq, Repr

namespace Rounding

def name : Rounding → String
  | trunc => "trunc"
  | ceil => "ceil"
  | floor => "floor"
  | round => "round"

def read (given : String) : Except OptionError Rounding :=
  chooseByName "rounding" ([trunc, ceil, floor, round].map fun r => (r.name, r)) given

def apply : Rounding → Binary64 → Binary64
  | trunc, x => x.trunc
  | ceil, x => x.ceil
  | floor, x => x.floor
  | round, x => x.addHalf.floor

end Rounding

end ReplySchema
