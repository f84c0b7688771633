import RuleCompiler.Binary64.Basic
import RuleCompiler.Text.Numeral

/-!
Reading numbers. A number has an optional sign, digits with an optional point before, among or after
them, and an optional exponent; `inf`, `infinity` and `nan`, in letters of either case, are numbers
too. Every text is read as the nearest number, and as infinity past the largest.
-/

namespace RuleCompiler.Binary64

/-- The power of ten that an exponent spells; nothing at all spells zero. -/
def exponent? : List Char → Option Int
  | [] => some 0
  | e :: rest =>
      let (negative, digits) := match rest with
        | '-' :: digits => (true, digits)
        | '+' :: digits => (false, digits)
        | digits => (false, digits)
      if (e != 'e' && e != 'E') || digits.isEmpty || !digits.all Char.isDigit then none
      else
        let power : Int := Text.decimalValue digits
        some (if negative then -power else power)

/-- The number that digits, an optional point and an optional exponent spell. -/
def ofDigits? (negative : Bool) (text : List Char) : Option Binary64 := do
  let whole := text.takeWhile Char.isDigit
  let text := text.dropWhile Char.isDigit
  let (fraction, text) := match text with
    | '.' :: rest => (rest.takeWhile Char.isDigit, rest.dropWhile Char.isDigit)
    | _ => ([], text)
  if whole.isEmpty && fraction.isEmpty then none
  let power ← exponent? text
  return ofDecimal negative (Text.decimalValue (whole ++ fraction)) (power - fraction.length)

def ofText? (text : List Char) : Option Binary64 :=
  let (negative, unsigned) := match text with
    | '-' :: rest => (true, rest)
    | '+' :: rest => (false, rest)
    | _ => (false, text)
  match String.ofList (unsigned.map Char.toLower) with
  | "inf" | "infinity" => some (infinity negative)
  | "nan" => some nan
  | _ => ofDigits? negative unsigned

end RuleCompiler.Binary64
