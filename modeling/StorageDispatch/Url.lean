set_option autoImplicit false

/-! # Storage URLs

A URL is `scheme://authority/path`, or a plain path. This module cuts URLs up the way the dispatcher
and the in-memory storage need it: `childUrl` is the URL of a directory entry, `parentUrl?` the URL of
the directory around a URL and `ancestorUrls` the chain of those up to the storage root. The work is
done on lists of characters, in the namespace `Url`.
-/

namespace StorageDispatch

namespace Url

/-- What closes the scheme of a URL. -/
def schemeEnd : List Char := [':', '/', '/']

/-- A URL without the slashes at its end. -/
def trimSlashes (url : List Char) : List Char := (url.reverse.dropWhile (· == '/')).reverse

/-- Split a URL behind its first `://`: the scheme with that separator, and the rest. -/
def splitScheme? : List Char → Option (List Char × List Char)
  | [] => none
  | c :: cs =>
    if schemeEnd.isPrefixOf (c :: cs) then some (schemeEnd, (c :: cs).drop schemeEnd.length)
    else (splitScheme? cs).map fun p => (c :: p.1, p.2)

/-- `scheme://authority` of a URL, and nothing of a plain path. -/
def root (url : List Char) : List Char :=
  match splitScheme? url with
  | none => []
  | some (scheme, rest) => scheme ++ rest.takeWhile (· != '/')

/-- The URL of the entry `name` of the directory `dir`. A relative name is appended to the directory;
a name that starts with a slash is taken from the root of the directory's storage. -/
def child (dir name : List Char) : List Char :=
  match name with
  | '/' :: _ => root dir ++ name
  | _ => trimSlashes dir ++ '/' :: name

/-- Everything before the last slash, if there is one. -/
def beforeLastSlash? (path : List Char) : Option (List Char) :=
  match path.reverse.dropWhile (· != '/') with
  | [] => none
  | _ :: before => some before.reverse

/-- The scheme with its separator, empty for a plain path, and the rest of the URL. -/
def schemeAndRest (url : List Char) : List Char × List Char := (splitScheme? url).getD ([], url)

/-- The directory around a URL. The storage root, which is what is left before the first slash of the
path, is the directory of nothing. -/
def parent? (url : List Char) : Option (List Char) :=
  let (scheme, rest) := schemeAndRest (trimSlashes url)
  match beforeLastSlash? rest with
  | none => none
  | some before => if before.contains '/' then some (scheme ++ before) else none

theorem length_trimSlashes_le (url : List Char) : (trimSlashes url).length ≤ url.length := by
  have h := (List.dropWhile_sublist (l := url.reverse) (· == '/')).length_le
  simpa [trimSlashes] using h

theorem append_of_splitScheme? {url scheme rest : List Char}
    (h : splitScheme? url = some (scheme, rest)) : scheme ++ rest = url := by
  induction url generalizing scheme rest with
  | nil => simp [splitScheme?] at h
  | cons c cs ih =>
    rw [splitScheme?] at h
    split at h
    · rename_i hp
      obtain ⟨t, ht⟩ := List.isPrefixOf_iff_prefix.mp hp
      simp only [Option.some.injEq, Prod.mk.injEq] at h
      rw [← h.1, ← h.2, ← ht]
      simp
    · obtain ⟨⟨before, after⟩, hp, he⟩ := Option.map_eq_some_iff.mp h
      simp only [Prod.mk.injEq] at he
      rw [← he.1, ← he.2, List.cons_append, ih hp]

theorem append_schemeAndRest (url : List Char) :
    (schemeAndRest url).1 ++ (schemeAndRest url).2 = url := by
  unfold schemeAndRest
  cases h : splitScheme? url with
  | none => rfl
  | some p =>
    obtain ⟨before, after⟩ := p
    exact append_of_splitScheme? h

theorem length_of_beforeLastSlash? {path before : List Char}
    (h : beforeLastSlash? path = some before) : before.length < path.length := by
  unfold beforeLastSlash? at h
  split at h
  · simp at h
  · rename_i x rest heq
    have hs := (List.dropWhile_sublist (l := path.reverse) (· != '/')).length_le
    rw [heq] at hs
    simp only [Option.some.injEq] at h
    simp only [← h, List.length_reverse, List.length_cons] at hs ⊢
    omega

theorem length_of_parent? {url up : List Char} (h : parent? url = some up) :
    up.length < url.length := by
  unfold parent? at h
  simp only at h
  split at h
  · simp at h
  · rename_i before hb
    split at h
    · have hl := length_of_beforeLastSlash? hb
      have ha := congrArg List.length (append_schemeAndRest (trimSlashes url))
      have ht := length_trimSlashes_le url
      simp only [Option.some.injEq] at h
      rw [← h]
      simp only [List.length_append] at ha ⊢
      omega
    · simp at h

/-- The directories around a URL, innermost first. -/
def ancestors (url : List Char) : List (List Char) :=
  match _h : parent? url with
  | none => []
  | some up => up :: ancestors up
termination_by url.length
decreasing_by exact length_of_parent? _h

end Url

/-- Whether a URL begins with a text, such as a scheme. -/
def beginsWith (url start : String) : Bool := start.toList.isPrefixOf url.toList

def childUrl (dir name : String) : String := String.ofList (Url.child dir.toList name.toList)

def rootUrl (url : String) : String := String.ofList (Url.root url.toList)

def trimUrl (url : String) : String := String.ofList (Url.trimSlashes url.toList)

def parentUrl? (url : String) : Option String := (Url.parent? url.toList).map String.ofList

def ancestorUrls (url : String) : List String := (Url.ancestors url.toList).map String.ofList

end StorageDispatch
