import SyncedFile.Text.Quoted

/-!
# Why a URI cannot be read

The ways in which the authority of a URI can be wrong, and the words for each of them.
-/

namespace SyncedFile.Uri

/-- What is wrong with a URI. -/
inductive Fault where
  /-- A bracket without its partner, or text beside the brackets. -/
  | misplacedBracket
  /-- A literal of a future version of IP that is not of the form `v1.x`. -/
  | futureLiteral
  /-- The text between brackets is no address. -/
  | notAnAddress (host : Text)
  /-- An address of version 4 stands between brackets. -/
  | bracketedVersion4
  /-- A character of the authority turns into a delimiter when normalised. -/
  | hiddenDelimiter (authority : Text)
  | portNotANumber (port : Text)
  | portTooLarge
  /-- The port has more digits than a number may be read from. -/
  | portTooLong (digits : Nat)
  deriving DecidableEq

def maxDigits : Nat := 4300

def Fault.reason : Fault → Text
  | misplacedBracket => "Invalid IPv6 URL"
  | futureLiteral => "IPvFuture address is invalid"
  | notAnAddress host => Text.quoted host ++ " does not appear to be an IPv4 or IPv6 address"
  | bracketedVersion4 => "An IPv4 address cannot be in brackets"
  | hiddenDelimiter authority =>
    "netloc '" ++ authority ++ "' contains invalid characters under NFKC normalization"
  | portNotANumber port =>
    "Port could not be cast to integer value as " ++ Text.quoted port
  | portTooLarge => "Port out of range 0-65535"
  | portTooLong digits =>
    "Exceeds the limit (" ++ Text.ofNat maxDigits
      ++ " digits) for integer string conversion: value has " ++ Text.ofNat digits
      ++ " digits; use sys.set_int_max_str_digits() to increase the limit"

end SyncedFile.Uri
