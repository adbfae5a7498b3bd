import Mathlib
import PipelineSync.Url.Basic

/-!
# What a URL owes to its text

Reading an address takes it apart at the characters between its parts. `ReadOf` says of each part of
a URL where in the text it stands and how it is read.
-/

namespace PipelineSync.Url

/-- The part of an address behind its slashes up to the end of the authority. -/
def authority (special : Bool) (cs : List Char) : List Char :=
  cs.takeWhile fun c => !endsAuthority special c

/-- The part of an authority behind the credentials. -/
def hostport (special : Bool) (text : List Char) : List Char :=
  ((splitUserinfo? (authority special text)).getD ([], authority special text)).2

/-- The text behind the authority. -/
def behind (special : Bool) (text : List Char) : List Char :=
  text.dropWhile fun c => !endsAuthority special c

/-- The port of a host, and what is left over of the authority. -/
def readPortText? (scheme : List Char) : List Char → Option (Option Nat × List Char)
  | [] => some (none, [])
  | _ :: digits => readPort? scheme digits

/-- The path in what follows the authority. -/
def pathOf (tail : List Char) : List Char := (tail.takeWhile (· != '#')).takeWhile (· != '?')

/-- The query in what follows the authority. -/
def queryOf (special : Bool) (tail : List Char) : Option (List Char) :=
  match (tail.takeWhile (· != '#')).dropWhile (· != '?') with
  | [] => none
  | _ :: q => some (encode (if special then specialQuerySet else querySet) q)

/-- The fragment in what follows the authority. -/
def fragmentOf (tail : List Char) : Option (List Char) :=
  match tail.dropWhile (· != '#') with
  | [] => none
  | _ :: f => some (encode fragmentSet f)

/-- What a URL owes to the text it is read of: `rest` is the text behind the scheme, `text` the one
behind the slashes, and `left` what the port leaves over. -/
structure ReadOf (cs : List Char) (u : Url) (rest text left : List Char) : Prop where
  scheme : readScheme? cs = some (u.scheme, rest)
  slashes : dropSlashes? (isSpecial u.scheme) rest = some text
  userinfo : readUserinfo
      ((splitUserinfo? (authority (isSpecial u.scheme) text)).getD
        ([], authority (isSpecial u.scheme) text)).1 = (u.username, u.password)
  host : readHost? (isSpecial u.scheme)
    (splitHost false (hostport (isSpecial u.scheme) text)).1 = some u.host
  hasHost : u.password.isSome → u.host ≠ []
  port : readPortText? u.scheme
    (splitHost false (hostport (isSpecial u.scheme) text)).2 = some (u.port, left)
  path : u.path = readPath (isSpecial u.scheme) (pathOf (left ++ behind (isSpecial u.scheme) text))
  query : u.query =
    queryOf (isSpecial u.scheme) (left ++ behind (isSpecial u.scheme) text)
  fragment : u.fragment = fragmentOf (left ++ behind (isSpecial u.scheme) text)

variable {cs : List Char} {u : Url}

theorem host_ne_nil_of_guard {host : List Char} {password : Option (List Char)} {b : Bool}
    (h : (!host.isEmpty || (b && password.isNone)) = true) (hpassword : password.isSome) :
    host ≠ [] := by
  rintro rfl
  obtain ⟨p, rfl⟩ := Option.isSome_iff_exists.1 hpassword
  rw [Option.isNone_some, Bool.and_false] at h
  cases h

theorem readOf_of_ofChars? (h : ofChars? cs = some u) :
    ∃ rest text left, ReadOf (clean cs) u rest text left := by
  simp only [ofChars?, Option.bind_eq_bind, Option.bind_eq_some_iff] at h
  obtain ⟨⟨scheme, rest⟩, hscheme, _, -, text, hslashes, _, -, host, hhost, _, hguard, h⟩ := h
  have hpassword := host_ne_nil_of_guard ((Option.guard_eq_some' _).1 hguard)
  split at h
  · next hport =>
    obtain rfl := Option.some.inj h
    exact ⟨rest, text, [], hscheme, hslashes, rfl, hhost, hpassword,
      congrArg (readPortText? scheme) hport, rfl, rfl, rfl⟩
  · next hport =>
    obtain ⟨⟨port, left⟩, hread, h⟩ := Option.bind_eq_some_iff.1 h
    obtain rfl := Option.some.inj h
    exact ⟨rest, text, left, hscheme, hslashes, rfl, hhost, hpassword,
      (congrArg (readPortText? scheme) hport).trans hread, rfl, rfl, rfl⟩

end PipelineSync.Url
