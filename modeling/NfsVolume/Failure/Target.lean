import NfsVolume.Domain.Label
import NfsVolume.Text.Ascii

/-!
Targets of requests that cannot be read.
-/
namespace NfsVolume

inductive TargetProblem where
  | tooLong
  | unprintable (c : Char) (position : Nat)
  | address4 (host : Text)
  | address6 (host : Text)
  | domainName (host : Text)
  | port (text : Text)
  | twoSlashes
  | colon
  | longPath
  | longQuery
  /-- The host is encoded and does not stand for a name. -/
  | label (problem : Domain.LabelProblem)
  | zone (e : Text.Ascii.WriteError)
  /-- The target is found at another location, which cannot be read. -/
  | location (problem : TargetProblem)
  | fragment (c : Char) (position : Nat)
  deriving DecidableEq, Repr

namespace TargetProblem

def maxLength : Nat := 65536

def message : TargetProblem → Text
  | .tooLong => "URL too long"
  | .unprintable c position =>
    "Invalid non-printable ASCII character in URL, " ++ Text.quoted [c] ++ " at position " ++
      Text.decimal position ++ "."
  | .address4 host => "Invalid IPv4 address: " ++ Text.quoted host
  | .address6 host => "Invalid IPv6 address: " ++ Text.quoted host
  | .domainName host => "Invalid IDNA hostname: " ++ Text.quoted host
  | .port text => "Invalid port: " ++ Text.quoted text
  | .twoSlashes => "Relative URLs cannot have a path starting with '//'"
  | .colon => "Relative URLs cannot have a path starting with ':'"
  | .longPath => "URL component 'path' too long"
  | .longQuery => "URL component 'query' too long"
  | .label problem => problem.message
  | .zone e => e.message
  | .location problem => "Invalid URL in location header: " ++ problem.message ++ "."
  | .fragment c position =>
    "Invalid non-printable ASCII character in URL fragment component, " ++ Text.quoted [c] ++
      " at position " ++ Text.decimal position ++ "."

end TargetProblem
end NfsVolume
