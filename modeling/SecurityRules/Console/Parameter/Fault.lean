import SecurityRules.Console.Parameter.Escape

/-!
# Why parameters are not understood

Besides faults of single tokens there are tokens that cannot stand where they
stand. Where it can be guessed what was meant, the fault says so.
-/

namespace SecurityRules.Parameter

/-- What is wrong with a template. -/
inductive TemplateFault where
  | loneClosing
  | tooDeep
  | backslash
  | comment
  | openQuote
  | unmatched (bracket : Char)
  | mismatched (closing opening : Char)
  | tooManyBrackets
  | noExpression
  | noExpressionBefore (c : Char)
  | badConversion
  | noClosing
  deriving DecidableEq, Repr

def TemplateFault.message : TemplateFault → Text
  | loneClosing => "f-string: single '\x7d' is not allowed"
  | tooDeep => "f-string: expressions nested too deeply"
  | backslash => "f-string expression part cannot include a backslash"
  | comment => "f-string expression part cannot include '#'"
  | openQuote => "f-string: unterminated string"
  | unmatched bracket => "f-string: unmatched '" ++ Text.ofChars [bracket] ++ "'"
  | mismatched closing opening =>
      "f-string: closing parenthesis '" ++ Text.ofChars [closing]
        ++ "' does not match opening parenthesis '" ++ Text.ofChars [opening] ++ "'"
  | tooManyBrackets => "f-string: too many nested parenthesis"
  | noExpression => "f-string: empty expression not allowed"
  | noExpressionBefore c => "f-string: expression required before '" ++ Text.ofChars [c] ++ "'"
  | badConversion => "f-string: invalid conversion character: expected 's', 'r', or 'a'"
  | noClosing => "f-string: expecting '\x7d'"

/-- What is wrong with the parameters of a nameless function. -/
inductive LambdaFault where
  | defaultOrder
  | parentheses
  | slashFirst
  | slashTwice
  | slashAfterStar
  | slashBeforeStar
  | bareStar
  | starDefault
  | starTwice
  | spreadDefault
  | afterSpread
  | noDefault
  deriving DecidableEq, Repr

def LambdaFault.message : LambdaFault → Text
  | defaultOrder => "non-default argument follows default argument"
  | parentheses => "Lambda expression parameters cannot be parenthesized"
  | slashFirst => "at least one argument must precede /"
  | slashTwice => "/ may appear only once"
  | slashAfterStar => "/ must be ahead of *"
  | slashBeforeStar => "expected comma between / and *"
  | bareStar => "named arguments must follow bare *"
  | starDefault => "var-positional argument cannot have default value"
  | starTwice => "* argument may appear only once"
  | spreadDefault => "var-keyword argument cannot have default value"
  | afterSpread => "arguments cannot follow var-keyword argument"
  | noDefault => "expected default value expression"

/-- Why parameters are not understood. -/
inductive Fault where
  | token (fault : TokenFault)
  | layout (fault : LayoutFault)
  | unexpected
  | unexpectedIndent
  | unexpectedDedent
  | missingComma
  | missingElse
  /-- Words that used to be statements want parentheses. -/
  | missingParentheses (w : String)
  | nameAssigned
  | assignedHere (title : String)
  | assigned (title : String)
  | namedOther (title : String)
  | missingColon
  | missingValue
  | starredValue
  | starredGroup
  | doubleStarredGroup
  | starredComprehension
  | spreadComprehension
  | bareTarget
  | bareGenerator
  | starAfterKeywords
  | positionalAfterKeyword
  | positionalAfterSpread
  | argumentAssigned
  | lambda (fault : LambdaFault)
  | mixedQuotes
  | bytesBeyondAscii
  | escape (fault : EscapeFault)
  | bytesEscape (position : Nat)
  | tooManyDigits (digits : Nat)
  | template (fault : TemplateFault)
  /-- A fault of an expression in a template. -/
  | inTemplate (fault : Fault)
  /-- The expression is nested too deeply to be read. -/
  | exhausted
  deriving DecidableEq, Repr

def Fault.message : Fault → Text
  | token fault => fault.message
  | layout fault => fault.message
  | unexpected => "invalid syntax"
  | unexpectedIndent => "unexpected indent"
  | unexpectedDedent => "unexpected unindent"
  | missingComma => "invalid syntax. Perhaps you forgot a comma?"
  | missingElse => "expected 'else' after 'if' expression"
  | missingParentheses w =>
      "Missing parentheses in call to '" ++ Text.ofString w ++ "'. Did you mean "
        ++ Text.ofString w ++ "(...)?"
  | nameAssigned => "invalid syntax. Maybe you meant '==' or ':=' instead of '='?"
  | assignedHere title =>
      "cannot assign to " ++ Text.ofString title
        ++ " here. Maybe you meant '==' instead of '='?"
  | assigned title => "cannot assign to " ++ Text.ofString title
  | namedOther title => "cannot use assignment expressions with " ++ Text.ofString title
  | missingColon => "':' expected after dictionary key"
  | missingValue => "expression expected after dictionary key and ':'"
  | starredValue => "cannot use a starred expression in a dictionary value"
  | starredGroup => "cannot use starred expression here"
  | doubleStarredGroup => "cannot use double starred expression here"
  | starredComprehension => "iterable unpacking cannot be used in comprehension"
  | spreadComprehension => "dict unpacking cannot be used in dict comprehension"
  | bareTarget => "did you forget parentheses around the comprehension target?"
  | bareGenerator => "Generator expression must be parenthesized"
  | starAfterKeywords => "iterable argument unpacking follows keyword argument unpacking"
  | positionalAfterKeyword => "positional argument follows keyword argument"
  | positionalAfterSpread => "positional argument follows keyword argument unpacking"
  | argumentAssigned => "expression cannot contain assignment, perhaps you meant \"==\"?"
  | lambda fault => fault.message
  | mixedQuotes => "cannot mix bytes and nonbytes literals"
  | bytesBeyondAscii => "bytes can only contain ASCII literal characters"
  | escape fault => fault.message
  | bytesEscape position =>
      "(value error) invalid \\x escape at position " ++ Text.ofNat position
  | tooManyDigits digits =>
      "Exceeds the limit (4300 digits) for integer string conversion: value has "
        ++ Text.ofNat digits
        ++ " digits; use sys.set_int_max_str_digits() to increase the limit"
        ++ " - Consider hexadecimal for huge integer literals to avoid decimal conversion limits."
  | template fault => fault.message
  | inTemplate (token fault) => fault.message
  | inTemplate fault => "f-string: " ++ fault.message
  | exhausted => ""

end SecurityRules.Parameter
