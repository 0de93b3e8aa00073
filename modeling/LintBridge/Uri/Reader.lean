import LintBridge.Uri.Basic

/-!
# Reading addresses

Addresses are read with much tolerance: blanks around them and line breaks in them go,
a reversed slash separates like a slash where the scheme is a well-known one, steps of
one or two dots in a path are taken at once, and what may not stand for itself is
encoded.
-/

set_option autoImplicit false

namespace LintBridge

inductive UriFault where
  | noScheme
  | badPort
  | badHost (fault : Uri.HostFault)
  deriving DecidableEq, Repr

def UriFault.message : UriFault → String
  | noScheme => "relative URL without a base"
  | badPort => "invalid port number"
  | badHost .noName => "empty host"
  | badHost .badCharacter => "invalid domain character"
  | badHost .badName => "invalid international domain name"
  | badHost .badV4 => "invalid IPv4 address"
  | badHost .badV6 => "invalid IPv6 address"

namespace Uri

inductive SchemeKind where
  | file
  | special
  | other
  deriving DecidableEq, Repr

namespace SchemeKind

def ofScheme (scheme : String) : SchemeKind :=
  if scheme = "file" then file
  else if ["http", "https", "ws", "wss", "ftp"].contains scheme then special
  else other

def isSpecial : SchemeKind → Bool
  | other => false
  | _ => true

end SchemeKind

def usualPort? (scheme : String) : Option Nat :=
  match scheme with
  | "http" | "ws" => some 80
  | "https" | "wss" => some 443
  | "ftp" => some 21
  | _ => none

/-- Without blanks and control characters around it, and without line breaks and tabs. -/
def clean (text : List Char) : List Char :=
  let isOuter (c : Char) : Bool := c ≤ ' '
  let trimmed := ((text.dropWhile isOuter).reverse.dropWhile isOuter).reverse
  trimmed.filter fun c => !(c = '\t' || c = '\n' || c = '\r')

def cutAt (isEnd : Char → Bool) (text : List Char) : List Char × List Char :=
  (text.takeWhile (!isEnd ·), text.dropWhile (!isEnd ·))

def isSchemeChar (c : Char) : Bool :=
  c.isAlphanum || c = '+' || c = '-' || c = '.'

/-- The scheme, in small letters, and what follows its colon. -/
def readScheme (text : List Char) : Option (String × List Char) :=
  match cutAt (!isSchemeChar ·) text with
  | (first :: name, ':' :: rest) =>
      if first.isAlpha then some (String.ofList ((first :: name).map Char.toLower), rest)
      else none
  | _ => none

def isSlash (kind : SchemeKind) (c : Char) : Bool :=
  c = '/' || (c = '\\' && kind.isSpecial)

def endsAuthority (kind : SchemeKind) (c : Char) : Bool :=
  isSlash kind c || c = '?' || c = '#'

def readHost (kind : SchemeKind) (text : List Char) : Except UriFault HostAddress :=
  (HostAddress.read kind.isSpecial text).mapError .badHost

/-! ## Paths -/

def isDrive : List Char → Bool
  | [letter, sign] => letter.isAlpha && (sign = ':' || sign = '|')
  | _ => false

def splitSteps (kind : SchemeKind) : List Char → List Char → List (List Char)
  | reversed, [] => [reversed.reverse]
  | reversed, c :: rest =>
      if isSlash kind c then reversed.reverse :: splitSteps kind [] rest
      else splitSteps kind (c :: reversed) rest

def plainDots : List Char → List Char
  | '%' :: '2' :: e :: rest =>
      if e = 'e' || e = 'E' then '.' :: plainDots rest else '%' :: '2' :: e :: plainDots rest
  | c :: rest => c :: plainDots rest
  | [] => []

/-- Back by one step (the last step comes first); one that names a drive is not left. -/
def stepBack : List (List Char) → List (List Char)
  | [] => []
  | last :: earlier => if isDrive last then last :: earlier else earlier

/-- Takes the steps one by one (those taken come with the last one first). -/
def takeSteps : List (List Char) → List (List Char) → List (List Char)
  | taken, [] => taken.reverse
  | taken, step :: rest =>
      let isLast := rest.isEmpty
      if plainDots step = ['.', '.'] then
        let back := stepBack taken
        takeSteps (if isLast then [] :: back else back) rest
      else if plainDots step = ['.'] then
        takeSteps (if isLast then [] :: taken else taken) rest
      else takeSteps (encode pathEscapes step :: taken) rest

/-- The steps with a slash before each; the path of a file begins with one slash. -/
def joinSteps (kind : SchemeKind) (steps : List (List Char)) : String :=
  let steps := if kind = .file then steps.dropWhile (·.isEmpty) else steps
  match steps with
  | [] => "/"
  | steps => String.ofList (steps.flatMap fun step => '/' :: step)

def readPath (kind : SchemeKind) (text : List Char) : String :=
  let inner :=
    match text with
    | c :: rest => if isSlash kind c then rest else text
    | [] => []
  joinSteps kind (takeSteps [] (splitSteps kind [] inner))

/-! ## Whole addresses -/

def readEnd (kind : SchemeKind) (rest : List Char) : Option String × Option String :=
  let (front, behind) := cutAt (· = '#') rest
  let query? :=
    match front with
    | '?' :: query => some (String.ofList (encode (queryEscapes kind.isSpecial) query))
    | _ => none
  let fragment? :=
    match behind with
    | '#' :: fragment => some (String.ofList (encode fragmentEscapes fragment))
    | _ => none
  (query?, fragment?)

/-- An address with its path, query and fragment still to be read; a path that may be
empty stays empty. -/
def withRest (kind : SchemeKind) (scheme : String) (authority? : Option String)
    (host? : Option HostAddress) (rest : List Char) : Uri :=
  let (path, tail) := cutAt (fun c => c = '?' || c = '#') rest
  let (query?, fragment?) := readEnd kind tail
  let path := if path.isEmpty && kind = .other then "" else readPath kind path
  { scheme, authority?, host?, path, query?, fragment? }

def plainPath (scheme : String) (rest : List Char) : Uri :=
  let (path, tail) := cutAt (fun c => c = '?' || c = '#') rest
  let (query?, fragment?) := readEnd .other tail
  { scheme, authority? := none, host? := none, path := String.ofList (encode [] path),
    query?, fragment? }

/-- The host of a file; the own one is not told. -/
def readFileHost (text : List Char) : Except UriFault (Option HostAddress) :=
  if text.isEmpty then .ok none
  else do
    let host ← readHost .file text
    return if host = .name "localhost" then none else some host

/-- The address of a file, behind its scheme.  A host that is named as a drive belongs to
the path. -/
def readFile (rest : List Char) : Except UriFault Uri :=
  match rest with
  | first :: second :: behind =>
      if isSlash .file first && isSlash .file second then
        let (host, path) := cutAt (endsAuthority .file) behind
        if isDrive host then .ok (withRest .file "file" (some "") none behind)
        else do
          let host? ← readFileHost host
          return withRest .file "file" (some ((host?.map HostAddress.text).getD "")) host? path
      else .ok (withRest .file "file" (some "") none rest)
  | _ => .ok (withRest .file "file" (some "") none rest)

def cutUser (authority : List Char) : Option (List Char) × List Char :=
  let host := (authority.reverse.takeWhile (· ≠ '@')).reverse
  if host.length = authority.length then (none, authority)
  else (some (authority.take (authority.length - host.length - 1)), host)

def writeUser (user : List Char) : List Char :=
  let (name, password) := cutAt (· = ':') user
  let name := encode userEscapes name
  let password := encode userEscapes (password.drop 1)
  let both := name ++ if password.isEmpty then [] else ':' :: password
  if both.isEmpty then [] else both ++ ['@']

def cutPort : Bool → List Char → List Char × Option (List Char)
  | _, [] => ([], none)
  | inside, c :: rest =>
      if c = ':' && !inside then ([], some rest)
      else
        let cut := cutPort (if c = '[' then true else if c = ']' then false else inside) rest
        (c :: cut.1, cut.2)

/-- The port as it is written: not at all where it is the usual one. -/
def readPort (scheme : String) (digits : List Char) : Except UriFault (List Char) :=
  if !digits.all Char.isDigit then .error .badPort
  else
    let port := digits.foldl (fun n c => n * 10 + (c.toNat - 48)) 0
    if 65535 < port then .error .badPort
    else if digits.isEmpty || usualPort? scheme = some port then .ok []
    else .ok (':' :: (toString port).toList)

/-- The address of something on a host, behind the slashes.  A port ends also before a
reversed slash, whatever the scheme. -/
def readRemote (kind : SchemeKind) (scheme : String) (rest : List Char) :
    Except UriFault Uri := do
  let (authority, path) := cutAt (endsAuthority kind) rest
  let (user?, place) := cutUser authority
  if user? = some [] && place.isEmpty && !path.isEmpty then throw (.badHost .noName)
  let (host, behind?) := cutPort false place
  let user := (user?.map writeUser).getD []
  if host.isEmpty && (kind.isSpecial || behind?.isSome || !user.isEmpty) then
    throw (.badHost .noName)
  let host ← readHost kind host
  let (digits, surplus) := cutAt (· = '\\') (behind?.getD [])
  let port ← readPort scheme digits
  let host? := if host = .name "" then none else some host
  let written := String.ofList (user ++ host.text.toList ++ port)
  return withRest kind scheme (some written) host? (surplus ++ path)

def read (text : String) : Except UriFault Uri :=
  match readScheme (clean text.toList) with
  | none => .error .noScheme
  | some (scheme, rest) =>
      match SchemeKind.ofScheme scheme with
      | .file => readFile rest
      | .special => readRemote .special scheme (rest.dropWhile (isSlash .special))
      | .other =>
          match rest with
          | '/' :: '/' :: behind => readRemote .other scheme behind
          | '/' :: _ => .ok (withRest .other scheme none none rest)
          | _ => .ok (plainPath scheme rest)

end Uri

end LintBridge
