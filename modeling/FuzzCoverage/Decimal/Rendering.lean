import FuzzCoverage.Decimal.Shortest

/-! # Writing binary64 numbers

Without an exponent mark: `plain` for thresholds in messages, `withFraction`, where a whole number
ends in `.0`, for documents, and `fixed`, where a half goes to the even digit, for tables. -/

namespace FuzzCoverage.Decimal

def sign (negative : Bool) : Text := if negative then ['-'] else []

def shortest (keepFraction : Bool) (x : Float) : Text :=
  match Binary64.ofFloat x with
  | .nan => "NaN".toList
  | .infinite negative => sign negative ++ "inf".toList
  | .finite negative mantissa exponent =>
    let (digits, power) := shortestDigits mantissa exponent
    sign negative ++ positional keepFraction digits power

def plain (x : Float) : Text := shortest false x

def withFraction (x : Float) : Text := shortest true x

def fixed (places : Nat) (x : Float) : Text :=
  match Binary64.ofFloat x with
  | .nan => "NaN".toList
  | .infinite negative => sign negative ++ "inf".toList
  | .finite negative mantissa exponent =>
    let (num, den) := scaleDown (mantissa * Nat.pow 10 places) 1 (-exponent)
    sign negative ++ positional false (roundHalfEven num den) (-(places : Int))

end FuzzCoverage.Decimal
