/-! What can be wrong with an XML document: its markup, or the shape of its elements. -/
namespace SignedRest.Xml

inductive AttributeFault
  | expectedEq
  | expectedValue
  | unquotedValue
  | expectedQuote
  | duplicated
  deriving DecidableEq, Repr

inductive EntityFault
  | unrecognized
  | unterminated
  | null
  | tooLongHexadecimal
  | invalidHexadecimal
  | tooLongDecimal
  | invalidDecimal
  | invalidCodepoint
  deriving DecidableEq, Repr

inductive MarkupFault
  | unexpectedEnd
  | unexpectedBang
  | emptyDoctype
  | endMismatch
  | attribute (fault : AttributeFault)
  | entity (fault : EntityFault)
  deriving DecidableEq, Repr

inductive Fault
  | markup (fault : MarkupFault)
  | unclosed
  | noRoot
  deriving DecidableEq, Repr

end SignedRest.Xml
