import Provision.Shell.Quoting
import Provision.Text.Calendar
import Provision.Text.Real

/-! Printing arguments as a format directs. -/

namespace Provision.Shell

/-! ## Integers as they are written -/

private def isSpace (c : Char) : Bool := c == ' ' || (9 ≤ c.toNat && c.toNat ≤ 13)

private def inBase (base : Nat) (c : Char) : Bool := (Text.hexDigit? c).any (· < base)

private def valueInBase (base : Nat) (digits : List Char) : Nat :=
  digits.foldl (fun value c => base * value + (Text.hexDigit? c).getD 0) 0

/-- The integer with which a text begins, and what stands behind it. Sixteen is the base
behind `0x` and eight behind another nought. -/
def integerFront (text : List Char) : Int × List Char :=
  let body := text.dropWhile isSpace
  let negative := body.head? == some '-'
  let body := if negative || body.head? == some '+' then body.tail else body
  let (base, digitsAt) : Nat × List Char :=
    match body with
    | '0' :: 'x' :: c :: rest => if inBase 16 c then (16, c :: rest) else (8, body)
    | '0' :: 'X' :: c :: rest => if inBase 16 c then (16, c :: rest) else (8, body)
    | '0' :: _ => (8, body)
    | _ => (10, body)
  let digits := digitsAt.takeWhile (inBase base)
  if digits.isEmpty then (0, text)
  else
    let value : Int := (valueInBase base digits : Nat)
    (if negative then -value else value, digitsAt.drop digits.length)

/-- A decimal integer, with blanks around it. -/
def integer? (text : String) : Option Int :=
  let body := text.toList.dropWhile isSpace
  let negative := body.head? == some '-'
  let body := if negative || body.head? == some '+' then body.tail else body
  let digits := body.takeWhile Char.isDigit
  if digits.isEmpty || !((body.drop digits.length).all isSpace) then none
  else
    let value : Int := (Text.digitsValue digits : Nat)
    some (if negative then -value else value)

/-- The range of the integers that are worked with. -/
def inWord (value : Int) : Bool := -0x8000000000000000 ≤ value && value < 0x8000000000000000

/-! ## Formats -/

/-- A width or a number of digits. -/
inductive Measure where
  | fixed (value : Nat)
  /-- An argument tells it. -/
  | given
  deriving DecidableEq, Repr

structure Directive where
  flags : List Char
  width : Option Measure
  precision : Option Measure
  conversion : Char
  /-- How a moment is to be shown. -/
  moment : String := ""
  deriving Repr

inductive FormatItem where
  | text (text : String)
  | directive (directive : Directive)
  /-- Nothing is printed from here on. -/
  | stop
  | fault (message : String)
  deriving Repr

abbrev Format := List FormatItem

namespace Format

/-- Who prints, which decides about some details and about the words of messages. -/
inductive Printer where
  | shell | program
  deriving DecidableEq, Repr

private def measureOf (text : List Char) : Option Measure × List Char :=
  match text with
  | '*' :: rest => (some .given, rest)
  | text =>
    let digits := text.takeWhile Char.isDigit
    if digits.isEmpty then (none, text)
    else (some (.fixed (Text.digitsValue digits)), text.drop digits.length)

private def conversions : Printer → List Char
  | .shell => "sbqQcdiuxXofFeEgGT".toList
  | .program => "sbqcdiuxXofFeEgG".toList

/-- The directive behind a percent sign, and how much of the text it takes. -/
private def directiveOf (printer : Printer) (text : List Char) : FormatItem × List Char :=
  let flags := text.takeWhile fun c => "#\x27-+ 0".toList.contains c
  let (width, behind) := measureOf (text.drop flags.length)
  let (precision, behind) :=
    match behind with
    | '.' :: rest =>
      match rest with
      | '-' :: rest => (none, rest.dropWhile Char.isDigit)
      | rest =>
        let (measure, rest) := measureOf rest
        (some (measure.getD (.fixed 0)), rest)
    | rest => (none, rest)
  let behind := behind.dropWhile fun c => "hjlLtz".toList.contains c
  let shown := String.ofList ('%' :: text.take (text.length - behind.length))
  match behind with
  | '(' :: rest =>
    let inner := rest.takeWhile (· != ')')
    match rest.drop inner.length with
    | _ :: 'T' :: rest =>
      if printer == .shell then
        (.directive { flags, width, precision, conversion := 'T', moment := String.ofList inner },
          rest)
      else (.fault (shown ++ "(: invalid conversion specification"), [])
    | _ => (.fault "warning: \x60(\x27: invalid time format specification", [])
  | c :: rest =>
    if (conversions printer).contains c && c != 'T' then
      (.directive { flags, width, precision, conversion := c }, rest)
    else
      match printer with
      | .shell =>
        (.fault ("\x60" ++ String.singleton c ++ "\x27: invalid format character"), [])
      | .program =>
        (.fault (shown ++ String.singleton c ++ ": invalid conversion specification"), [])
  | [] =>
    match printer with
    | .shell => (.fault ("\x60" ++ shown ++ "\x27: missing format character"), [])
    | .program => (.fault (shown ++ ": invalid conversion specification"), [])

private def items (printer : Printer) : Nat → List Char → Format
  | 0, _ => []
  | _, [] => []
  | fuel + 1, '%' :: '%' :: rest => .text "%" :: items printer fuel rest
  | fuel + 1, '%' :: rest =>
    let (item, behind) := directiveOf printer rest
    item :: items printer fuel behind
  | fuel + 1, '\\' :: rest =>
    if printer == .program && rest.head? == some 'c' then [.stop]
    else
      match escapeAt? .format rest with
      | some (count, .text text) => .text text :: items printer fuel (rest.drop count)
      | some (_, .stop) => [.stop]
      | none => .text "\\" :: items printer fuel rest
  | fuel + 1, c :: rest => .text (String.singleton c) :: items printer fuel rest

def ofText (printer : Printer) (text : String) : Format :=
  items printer (text.length + 1) text.toList

/-! ## Printing -/

/-- What has been printed, what is wrong, and what is left of the arguments. -/
private structure Printing where
  pieces : List String := []
  faults : List String := []
  /-- Whether a fault makes the whole a failure. -/
  failed : Bool := false
  stopped : Bool := false
  arguments : List String

private abbrev Print := StateM Printing

private def emit (text : String) : Print Unit :=
  modify fun printing => { printing with pieces := text :: printing.pieces }

private def fault (message : String) (fails : Bool) : Print Unit :=
  modify fun printing =>
    { printing with
      faults := message :: printing.faults
      failed := printing.failed || fails }

private def argument? : Print (Option String) := do
  let printing ← get
  match printing.arguments with
  | [] => return none
  | first :: rest =>
    set { printing with arguments := rest }
    return some first

private def complainNumber (printer : Printer) (text : String) (nothing : Bool) : Print Unit :=
  match printer with
  | .shell =>
    let kind :=
      match text.toList with
      | '0' :: c :: _ =>
        if c.isDigit then "invalid octal number" else if c == 'x' then "invalid hex number"
        else "invalid number"
      | _ => "invalid number"
    fault (text ++ ": " ++ kind) true
  | .program =>
    fault ("\x27" ++ text ++ "\x27: " ++
      (if nothing then "expected a numeric value" else "value not completely converted")) true

private def complainRange (printer : Printer) (text : String) : Print Unit :=
  match printer with
  | .shell => fault ("warning: " ++ text ++ ": Numerical result out of range") false
  | .program => fault ("\x27" ++ text ++ "\x27: Numerical result out of range") true

private def characterCode? (text : String) : Option Int :=
  match text.toList with
  | '\x27' :: rest | '"' :: rest => some ((rest.head?.map fun c => (c.toNat : Int)).getD 0)
  | _ => none

/-- The integer that the next argument stands for; nothing at all stands for nought. -/
private def integer (printer : Printer) (low high : Int) : Print Int := do
  let some text ← argument? | return 0
  if let some code := characterCode? text then return code
  let (value, rest) := integerFront text.toList
  if !rest.isEmpty || (text.isEmpty && printer == .program) then
    complainNumber printer text (rest.length == text.length)
    return max low (min high value)
  if value < low || high < value then
    complainRange printer text
    return max low (min high value)
  return value

private def signedInteger (printer : Printer) : Print Int :=
  integer printer (-0x8000000000000000) 0x7FFFFFFFFFFFFFFF

private def unsignedInteger (printer : Printer) : Print Nat := do
  let value ← integer printer (-0xFFFFFFFFFFFFFFFF) 0xFFFFFFFFFFFFFFFF
  return (value % 0x10000000000000000).toNat

private def real (printer : Printer) : Print Text.Real := do
  let zero := Text.Real.finite false 0 0
  let some text ← argument? | return zero
  if let some code := characterCode? text then
    return Text.Real.ofQuotient false code.toNat 1
  let body := text.toList.dropWhile isSpace
  match Text.Real.read? body with
  | some (value, []) => return value
  | some (value, _) =>
    complainNumber printer text false
    return value
  | none =>
    if !text.isEmpty then complainNumber printer text true
    return zero

private def spaces (count : Nat) : String := String.ofList (List.replicate count ' ')

private def zeros (count : Nat) : String := String.ofList (List.replicate count '0')

/-- The sizes that a directive asks for, once arguments have told them. -/
private structure Layout where
  width : Nat
  toLeft : Bool
  precision : Option Nat

private def measured (printer : Printer) (directive : Directive) : Print Layout := do
  let toLeft := directive.flags.contains '-'
  let (width, toLeft) ←
    match directive.width with
    | none => pure (0, toLeft)
    | some (.fixed value) => pure (value, toLeft)
    | some .given =>
      let value ← signedInteger printer
      pure (value.natAbs, toLeft || value < 0)
  let precision ←
    match directive.precision with
    | none => pure none
    | some (.fixed value) => pure (some value)
    | some .given =>
      let value ← signedInteger printer
      pure (if value < 0 then none else some value.toNat)
  return ⟨width, toLeft, precision⟩

private def padded (layout : Layout) (text : String) : String :=
  let missing := spaces (layout.width - text.length)
  if layout.toLeft then text ++ missing else missing ++ text

/-- A number with what stands in front of its digits, filled up with noughts if that is
asked for. -/
private def numeral (layout : Layout) (filled : Bool) (front digits : String) : String :=
  if filled && !layout.toLeft then
    front ++ zeros (layout.width - front.length - digits.length) ++ digits
  else padded layout (front ++ digits)

private def cut (layout : Layout) (text : String) : String :=
  match layout.precision with
  | some most => String.ofList (text.toList.take most)
  | none => text

private def signOf (directive : Directive) (negative : Bool) : String :=
  if negative then "-" else if directive.flags.contains '+' then "+"
  else if directive.flags.contains ' ' then " " else ""

private def wholeDigits (layout : Layout) (base value : Nat) : String :=
  let digits := if value == 0 && layout.precision == some 0 then []
    else Nat.toDigits base value
  zeros (layout.precision.getD 0 - digits.length) ++ String.ofList digits

private def whole (directive : Directive) (layout : Layout) (base : Nat) (front : String)
    (value : Nat) : String :=
  let filled := directive.flags.contains '0' && layout.precision.isNone
  let alternative := directive.flags.contains '#'
  let digits := wholeDigits layout base value
  let digits := if alternative && base == 8 && digits.front != '0' then "0" ++ digits else digits
  let front := if alternative && base == 16 && value != 0 then "0x" else front
  let text := numeral layout filled front digits
  if directive.conversion == 'X' then text.map Char.toUpper else text

private def realText (directive : Directive) (layout : Layout) (value : Text.Real) : String :=
  let digits := value.digits directive.conversion.toLower (layout.precision.getD 6)
    (directive.flags.contains '#')
  let filled := directive.flags.contains '0' && value.isFinite
  let text := numeral layout filled (signOf directive value.isNegative) digits
  if directive.conversion.isUpper then text.map Char.toUpper else text

private def quotedArgument (printer : Printer) (text : String) : String :=
  match printer with
  | .shell => Quoting.word text
  | .program =>
    let plain (c : Char) : Bool := c.isAlphanum || "_-+./:@%,".toList.contains c
    if !text.isEmpty && text.toList.all plain then text else Quoting.single text

private def printDirective (printer : Printer) (directive : Directive) : Print Unit := do
  let layout ← measured printer directive
  match directive.conversion with
  | 's' => emit (padded layout (cut layout ((← argument?).getD "")))
  | 'b' =>
    let (text, whole) := unescape .argument ((← argument?).getD "")
    emit (padded layout (cut layout text))
    if !whole then modify fun printing => { printing with stopped := true }
  | 'q' => emit (padded layout (cut layout (quotedArgument printer ((← argument?).getD ""))))
  | 'Q' => emit (padded layout (quotedArgument printer (cut layout ((← argument?).getD ""))))
  | 'c' =>
    let text := (← argument?).getD ""
    emit (padded layout (if text.isEmpty then "\x00" else String.singleton text.front))
  | 'u' => emit (whole directive layout 10 "" (← unsignedInteger printer))
  | 'o' => emit (whole directive layout 8 "" (← unsignedInteger printer))
  | 'x' | 'X' => emit (whole directive layout 16 "" (← unsignedInteger printer))
  | 'd' | 'i' =>
    let value ← signedInteger printer
    emit (whole directive layout 10 (signOf directive (value < 0)) value.natAbs)
  | 'T' =>
    let stamp ← if (← get).arguments.isEmpty then pure 0 else signedInteger printer
    let format := if directive.moment.isEmpty then "%X" else directive.moment
    emit (padded layout (cut layout ((Text.Moment.ofSeconds stamp).shown format)))
  | _ => emit (realText directive layout (← real printer))

/-- Print all items once. -/
private def once (printer : Printer) : Format → Print Unit
  | [] => pure ()
  | item :: rest => do
    match item with
    | .text text => emit text
    | .directive directive => printDirective printer directive
    | .stop => modify fun printing => { printing with stopped := true }
    | .fault message =>
      fault message true
      modify fun printing => { printing with stopped := true }
    if !(← get).stopped then once printer rest

private def usesArguments (format : Format) : Bool :=
  format.any fun
    | .directive _ => true
    | _ => false

private def again (printer : Printer) (format : Format) : Nat → Print Unit
  | 0 => pure ()
  | fuel + 1 => do
    once printer format
    let printing ← get
    if !printing.stopped && !printing.arguments.isEmpty && usesArguments format then
      again printer format fuel

/-- Print the arguments, using the format again as long as there are more of them. What is
printed, what was wrong, and whether that makes the whole a failure. -/
def print (printer : Printer) (format : Format) (arguments : List String) :
    String × List String × Bool :=
  let (_, printing) := (again printer format (arguments.length + 1)).run { arguments }
  let surplus := if printing.stopped then [] else printing.arguments
  let faults :=
    match printer, surplus with
    | .program, first :: _ =>
      ("warning: ignoring excess arguments, starting with \x27" ++ first ++ "\x27")
        :: printing.faults
    | _, _ => printing.faults
  (String.join printing.pieces.reverse, faults.reverse, printing.failed)

end Format

end Provision.Shell
