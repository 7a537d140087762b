import GrammarForm.Text.Halves

/-!
# Addresses

A request names its place by an address: a path on the site, or a whole address with a scheme and
a host, of which only the path counts.  Dots in the path are taken as steps, and escapes of bytes
are decoded where the request leaves the browser and once more where it reaches the site.

## Main definitions

* `Address.read` : the parts of an address.
* `Address.target` : the path on the site that an address means.
-/

namespace GrammarForm

/-- The parts of an address that count. -/
structure Address where
  /-- The scheme in small letters; empty if there is none. -/
  scheme : String
  /-- What stands between two slashes and the path. -/
  authority : List Char
  path : List Char
deriving DecidableEq, Repr

namespace Address

/-- Why an address means no path on the site. -/
inductive Fault where
  | malformed
  /-- The scheme is not one of the web. -/
  | foreignScheme
  /-- The address has no form in bytes. -/
  | unencodable
deriving DecidableEq, Repr

/-! ### Reading -/

/-- The number of characters that an address may have. -/
def lengthLimit : Nat := 65536

/-- Whether a character is a control character of ASCII. -/
def isControl (c : Char) : Bool :=
  decide (c.toNat < 32) || c.toNat == 127

/-- Whether a character may stand in a scheme behind its first one. -/
def isSchemeChar (c : Char) : Bool :=
  c.isAlphanum || c == '+' || c == '.' || c == '-'

/-- The scheme in front of a colon, and what follows; without a colon there is no scheme. -/
def splitScheme (cs : List Char) : List Char × List Char :=
  let name := cs.takeWhile isSchemeChar
  match cs.dropWhile isSchemeChar with
  | ':' :: rest => if (name.headD 'a').isAlpha then (name, rest) else ([], cs)
  | _ => ([], cs)

/-- What stands between two slashes and the path, and what follows. -/
def splitAuthority : List Char → List Char × List Char
  | '/' :: '/' :: rest =>
    let inAuthority (c : Char) : Bool := c != '/' && c != '?' && c != '#'
    (rest.takeWhile inAuthority, rest.dropWhile inAuthority)
  | cs => ([], cs)

/-- The host in an authority, which may have a user in front and a port behind. -/
def host (a : Address) : List Char :=
  let withoutUser := (a.authority.reverse.takeWhile (· != '@')).reverse
  if withoutUser.head? = some '[' then withoutUser else withoutUser.takeWhile (· != ':')

/-- Whether an address stands on its own. -/
def isWhole (a : Address) : Bool :=
  a.scheme != "" && !a.host.isEmpty

/-- Whether an address without scheme and authority begins as if it had one. -/
def isAmbiguous (a : Address) : Bool :=
  a.scheme == "" && a.authority.isEmpty &&
    (("//".toList).isPrefixOf a.path || a.path.head? == some ':')

/-- The parts of an address; query and fragment do not count. -/
def read (s : String) : Except Fault Address :=
  if lengthLimit < s.length || s.toList.any isControl then .error .malformed
  else if !Text.isEncodable s then .error .unencodable
  else
    let (scheme, rest) := splitScheme s.toList
    let (authority, rest) := splitAuthority rest
    let path := rest.takeWhile fun c => c != '?' && c != '#'
    let a : Address := ⟨(String.ofList scheme).toLower, authority, path⟩
    if a.isAmbiguous then .error .malformed else .ok a

/-! ### Steps -/

/-- The names of a path between slashes, after the names `done`, which are last first. -/
def takeSteps (done : List (List Char)) : List (List Char) → List (List Char)
  | [] => done.reverse
  | ['.'] :: rest => takeSteps done rest
  | ['.', '.'] :: rest => takeSteps (if done = [[]] then done else done.tail) rest
  | name :: rest => takeSteps (name :: done) rest

/-- The parts of a list between slashes. -/
def names (cs : List Char) : List (List Char) :=
  cs.splitOn '/'

/-- A path without steps: a dot stays where it is, and two dots go back by one name. -/
def withoutSteps (cs : List Char) : List Char :=
  ['/'].intercalate (takeSteps [] (names cs))

/-! ### Escapes -/

/-- The number that a hexadecimal digit stands for. -/
def hexValue? (c : Char) : Option Nat :=
  if c.isDigit then some (c.toNat - 48)
  else if 'a' ≤ c ∧ c ≤ 'f' then some (c.toNat - 87)
  else if 'A' ≤ c ∧ c ≤ 'F' then some (c.toNat - 55)
  else none

/-- The character shown for a byte beyond ASCII.  No place of the site has one in its path. -/
def replacement : Char := Char.ofNat 0xfffd

/-- The character for a byte. -/
def ofByte (n : Nat) : Char :=
  if n < 128 then Char.ofNat n else replacement

/-- The characters with bytes for their escapes; what is no escape stays as it is. -/
def decoded : List Char → List Char
  | '%' :: a :: b :: rest =>
    match hexValue? a, hexValue? b with
    | some high, some low => ofByte (16 * high + low) :: decoded rest
    | _, _ => '%' :: decoded (a :: b :: rest)
  | c :: rest => c :: decoded rest
  | [] => []

/-! ### Paths -/

/-- The characters of a path as the request is sent. -/
def sentPath (a : Address) : List Char :=
  if a.isWhole then withoutSteps a.path
  else
    let own :=
      if a.scheme == "" && a.authority.isEmpty then a.path else withoutSteps a.path
    withoutSteps ('/' :: own.dropWhile (· == '/'))

/-- The path on the site that an address means. -/
def target (s : String) : Except Fault String := do
  let a ← read s
  if a.isWhole && !(a.scheme = "http" || a.scheme = "https") then .error .foreignScheme
  else
    let sent := a.sentPath
    .ok (String.ofList (decoded (decoded (if sent.isEmpty then ['/'] else sent))))

end Address

end GrammarForm
