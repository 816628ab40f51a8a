import Mathlib.Data.List.DropRight
import StorageDispatch.Url

set_option autoImplicit false

/-! # URLs of directory entries

A URL without the slashes at its end is a part of it (`trimSlashes_append`), and a URL that has a scheme is taken
apart behind its first `://` (`splitScheme?_scheme`). A `Location` is such a URL with its parts, and its `storage`
is `scheme://authority`.

**The result** is told twice. An entry of a location is on the storage of its directory, whatever the name is, if
the location is `Anchored`, which means that something other than slashes follows the `://`
(`stays_childUrl`). From a location that is not, only names that start with a slash stay: a relative name is glued to
`scheme:/`, because the slashes of the separator are trimmed too (`childUrl_relative`, `leaves_of_relative`).
-/

namespace StorageDispatch

namespace Url

/-! ## Trimming -/

theorem trimSlashes_prefix (url : List Char) : trimSlashes url <+: url := List.rdropWhile_prefix _ _

theorem trimSlashes_eq_nil_iff {url : List Char} : trimSlashes url = [] ↔ ∀ c ∈ url, c = '/' := by
  rw [trimSlashes, ← List.rdropWhile, List.rdropWhile_eq_nil_iff]
  simp only [beq_iff_eq]

/-- The end decides what is trimmed. -/
theorem trimSlashes_append (front back : List Char) :
    trimSlashes (front ++ back) = if trimSlashes back = [] then trimSlashes front else front ++ trimSlashes back := by
  simp only [trimSlashes, List.reverse_append, List.dropWhile_append, List.reverse_eq_nil_iff, List.isEmpty_iff]
  split
  · rfl
  · simp

/-- Without a slash there is nothing to trim. -/
theorem trimSlashes_eq_self {url : List Char} (h : '/' ∉ url) : trimSlashes url = url := by
  refine List.rdropWhile_eq_self_iff.mpr fun hne hlast => h ?_
  rw [← beq_iff_eq.mp hlast]
  exact List.getLast_mem hne

/-! ## Schemes and roots -/

/-- A URL is split behind its scheme. -/
theorem splitScheme?_scheme {scheme : List Char} (h : ':' ∉ scheme) (rest : List Char) :
    splitScheme? (scheme ++ (schemeEnd ++ rest)) = some (scheme ++ schemeEnd, rest) := by
  induction scheme with
  | nil => rfl
  | cons c cs ih =>
      obtain ⟨hc, hcs⟩ := not_or.mp (mt List.mem_cons.mpr h)
      have hnot : ¬ schemeEnd.isPrefixOf (c :: (cs ++ (schemeEnd ++ rest))) = true := by
        rw [List.isPrefixOf_iff_prefix, schemeEnd, List.cons_prefix_cons]
        exact fun hprefix => hc hprefix.1
      rw [List.cons_append, splitScheme?, if_neg hnot, ih hcs]
      rfl

/-- The root of a URL ends where its path begins. -/
theorem root_scheme {scheme authority : List Char} (hscheme : ':' ∉ scheme) (hauthority : '/' ∉ authority)
    {path : List Char} (hpath : path = [] ∨ ['/'] <+: path) :
    root (scheme ++ (schemeEnd ++ (authority ++ path))) = scheme ++ (schemeEnd ++ authority) := by
  have hwhole (c : Char) (hc : c ∈ authority) : (c != '/') = true :=
    bne_iff_ne.mpr fun hslash => hauthority (hslash ▸ hc)
  have htake : (authority ++ path).takeWhile (· != '/') = authority := by
    rw [List.takeWhile_append_of_pos hwhole]
    rcases hpath with rfl | ⟨path, rfl⟩ <;> simp
  rw [root, splitScheme?_scheme hscheme]
  simp only [htake, List.append_assoc]

theorem prefix_root (url : List Char) : root url <+: url := by
  unfold root
  split
  · exact List.nil_prefix
  · rename_i before after hsplit
    rw [← append_of_splitScheme? hsplit, List.prefix_append_right_inj]
    exact List.takeWhile_prefix _

end Url

open Url

theorem beginsWith_iff {url start : String} : beginsWith url start = true ↔ start.toList <+: url.toList :=
  List.isPrefixOf_iff_prefix

theorem toList_rootUrl (url : String) : (rootUrl url).toList = root url.toList := String.toList_ofList

theorem toList_childUrl (dir name : String) : (childUrl dir name).toList = child dir.toList name.toList :=
  String.toList_ofList

theorem toList_trimUrl (url : String) : (trimUrl url).toList = trimSlashes url.toList := String.toList_ofList

/-- A name that starts with a slash is taken from the root. -/
theorem toList_childUrl_absolute (dir : String) {name : String} (h : beginsWith name "/" = true) :
    (childUrl dir name).toList = root dir.toList ++ name.toList := by
  obtain ⟨rest, hname⟩ := beginsWith_iff.mp h
  rw [toList_childUrl, ← hname]
  rfl

/-- Any other name is appended to the directory. -/
theorem toList_childUrl_relative (dir : String) {name : String} (h : ¬ beginsWith name "/" = true) :
    (childUrl dir name).toList = trimSlashes dir.toList ++ '/' :: name.toList := by
  rw [toList_childUrl]
  unfold child
  split
  · rename_i rest hname
    refine absurd (beginsWith_iff.mpr ?_) h
    rw [hname]
    exact ⟨rest, rfl⟩
  · rfl

/-- A name without a slash is appended to the directory. -/
theorem childUrl_eq (dir : String) {name : String} (h : '/' ∉ name.toList) :
    childUrl dir name = trimUrl dir ++ "/" ++ name := by
  have hrelative : ¬ beginsWith name "/" = true := by
    rw [beginsWith_iff]
    exact fun hstart => h (hstart.subset (List.mem_singleton.mpr rfl))
  rw [← String.toList_inj, toList_childUrl_relative _ hrelative]
  simp [toList_trimUrl]

theorem childUrl_ne_empty (dir : String) {name : String} (h : '/' ∉ name.toList) : childUrl dir name ≠ "" := by
  rw [childUrl_eq dir h]
  simp

/-- The URL of an entry begins as that of its directory does. -/
theorem beginsWith_childUrl {dir name start : String} (h : beginsWith (trimUrl dir) start = true)
    (hname : '/' ∉ name.toList) : beginsWith (childUrl dir name) start = true := by
  rw [childUrl_eq dir hname, beginsWith_iff, String.toList_append, String.toList_append, List.append_assoc]
  exact (beginsWith_iff.mp h).trans (List.prefix_append _ _)

/-! ## Locations -/

/-- **A URL with a scheme**: `scheme://authority`, and a path that is empty or starts with a slash. -/
structure Location where
  scheme : String
  authority : String
  path : String
  scheme_ne : scheme ≠ ""
  scheme_plain : ∀ c ∈ scheme.toList, c ≠ '/' ∧ c ≠ ':'
  authority_plain : '/' ∉ authority.toList
  path_rooted : path = "" ∨ beginsWith path "/" = true

namespace Location

def storage (l : Location) : String := l.scheme ++ "://" ++ l.authority

def url (l : Location) : String := l.storage ++ l.path

/-- Something other than slashes follows the `://`. -/
def Anchored (l : Location) : Prop := l.authority ≠ "" ∨ ∃ c ∈ l.path.toList, c ≠ '/'

/-- **A URL is on the storage of a location.** -/
def Stays (l : Location) (url : String) : Prop :=
  beginsWith url (l.storage ++ "/") = true ∧ rootUrl url = l.storage

/-- **A URL is nowhere on the storage of a location.** -/
def Leaves (l : Location) (url : String) : Prop :=
  ¬ beginsWith url (l.storage ++ "/") = true ∧ rootUrl url ≠ l.storage

variable (l : Location)

theorem not_mem_scheme : ':' ∉ l.scheme.toList := fun h => (l.scheme_plain _ h).2 rfl

theorem toList_storage : l.storage.toList = l.scheme.toList ++ (schemeEnd ++ l.authority.toList) := by
  simp [storage, schemeEnd]

theorem toList_url : l.url.toList = l.storage.toList ++ l.path.toList := String.toList_append

theorem path_eq : l.path.toList = [] ∨ ['/'] <+: l.path.toList :=
  l.path_rooted.imp (fun h => by rw [h]; rfl) beginsWith_iff.mp

/-- What follows the storage does not matter to the root, if it starts with a slash. -/
theorem root_storage {path : List Char} (hpath : path = [] ∨ ['/'] <+: path) :
    root (l.storage.toList ++ path) = l.storage.toList := by
  have h := root_scheme l.not_mem_scheme l.authority_plain hpath
  rwa [toList_storage, List.append_assoc, List.append_assoc]

theorem stays_of_toList {url : String} {path : List Char} (h : url.toList = l.storage.toList ++ path)
    (hpath : ['/'] <+: path) : l.Stays url := by
  constructor
  · rw [beginsWith_iff, h, String.toList_append]
    exact (List.prefix_append_right_inj _).mpr hpath
  · rw [← String.toList_inj, toList_rootUrl, h]
    exact l.root_storage (.inr hpath)

/-- The authority and the separator before it are not trimmed. -/
theorem trimSlashes_url (h : l.Anchored) :
    trimSlashes l.url.toList = l.storage.toList ++ trimSlashes l.path.toList := by
  rw [toList_url, trimSlashes_append]
  split
  · rename_i hpath
    have hauthority : l.authority ≠ "" := by
      refine h.resolve_right ?_
      rintro ⟨c, hc, hne⟩
      exact hne (trimSlashes_eq_nil_iff.mp hpath c hc)
    have hkept := trimSlashes_eq_self l.authority_plain
    have hne : trimSlashes l.authority.toList ≠ [] := by
      rw [hkept]
      exact fun hnil => hauthority (String.toList_eq_nil_iff.mp hnil)
    rw [hpath, List.append_nil, toList_storage, ← List.append_assoc, trimSlashes_append, if_neg hne, hkept]
  · rfl

/-- Without an anchor, the slashes of the separator are trimmed with the others. -/
theorem trimSlashes_url_of_not (h : ¬ l.Anchored) : trimSlashes l.url.toList = l.scheme.toList ++ [':'] := by
  obtain ⟨hauthority, hpath⟩ := not_or.mp h
  have hempty : l.authority.toList = [] := by rw [not_not.mp hauthority]; rfl
  have hslashes : trimSlashes (['/', '/'] ++ l.path.toList) = [] := by
    refine trimSlashes_eq_nil_iff.mpr fun c hc => ?_
    rcases List.mem_append.mp hc with hc | hc
    · simpa using hc
    · exact not_not.mp fun hne => hpath ⟨c, hc, hne⟩
  have hsplit : l.url.toList = (l.scheme.toList ++ [':']) ++ (['/', '/'] ++ l.path.toList) := by
    rw [toList_url, toList_storage, hempty]
    simp [schemeEnd]
  have hcolon : trimSlashes [':'] = [':'] := rfl
  rw [hsplit, trimSlashes_append, if_pos hslashes, trimSlashes_append, hcolon, if_neg (List.cons_ne_nil _ _)]

/-- A name that starts with a slash stays on the storage. -/
theorem stays_of_absolute {name : String} (h : beginsWith name "/" = true) : l.Stays (childUrl l.url name) := by
  refine l.stays_of_toList ?_ (beginsWith_iff.mp h)
  rw [toList_childUrl_absolute _ h, toList_url, l.root_storage l.path_eq]

/-- A relative name stays on the storage of a location that has an anchor. -/
theorem stays_of_anchored (h : l.Anchored) (name : String) : l.Stays (childUrl l.url name) := by
  by_cases habsolute : beginsWith name "/" = true
  · exact l.stays_of_absolute habsolute
  · have hchild : (childUrl l.url name).toList =
        l.storage.toList ++ (trimSlashes l.path.toList ++ '/' :: name.toList) := by
      rw [toList_childUrl_relative _ habsolute, l.trimSlashes_url h, List.append_assoc]
    refine l.stays_of_toList hchild ?_
    -- What is left of the path is nothing, or starts as the path does.
    cases hleft : trimSlashes l.path.toList with
    | nil => exact ⟨name.toList, rfl⟩
    | cons c cs =>
        obtain ⟨trimmed, hpath⟩ := trimSlashes_prefix l.path.toList
        rw [hleft] at hpath
        rcases l.path_eq with hnil | ⟨rest, hrooted⟩
        · rw [hnil] at hpath
          cases hpath
        · rw [← hrooted] at hpath
          rw [(List.cons_eq_cons.mp hpath).1]
          exact ⟨cs ++ '/' :: name.toList, rfl⟩

/-- Without an anchor, a relative name is glued to the scheme and a single slash. -/
theorem childUrl_relative (h : ¬ l.Anchored) {name : String} (hrelative : ¬ beginsWith name "/" = true) :
    childUrl l.url name = l.scheme ++ ":/" ++ name := by
  rw [← String.toList_inj, toList_childUrl_relative _ hrelative, l.trimSlashes_url_of_not h]
  simp

/-- Such an entry is not on the storage of its directory. -/
theorem leaves_of_relative (h : ¬ l.Anchored) {name : String} (hrelative : ¬ beginsWith name "/" = true) :
    l.Leaves (childUrl l.url name) := by
  have hchild : (childUrl l.url name).toList = (l.scheme.toList ++ [':', '/']) ++ name.toList := by
    rw [l.childUrl_relative h hrelative]
    simp
  have hnot : ¬ l.storage.toList <+: (childUrl l.url name).toList := by
    rw [hchild, toList_storage, schemeEnd]
    intro hprefix
    have hslash : '/' :: l.authority.toList <+: name.toList := by simpa using hprefix
    exact hrelative (beginsWith_iff.mpr ((List.prefix_append ['/'] _).trans hslash))
  constructor
  · rw [beginsWith_iff, String.toList_append]
    exact fun hbegins => hnot ((List.prefix_append _ _).trans hbegins)
  · intro hroot
    rw [← hroot, toList_rootUrl] at hnot
    exact hnot (prefix_root _)

/-- **Whether an entry is on the storage of its directory.** -/
theorem stays_childUrl_iff (name : String) :
    l.Stays (childUrl l.url name) ↔ beginsWith name "/" = true ∨ l.Anchored := by
  constructor
  · intro hstays
    by_contra hnot
    obtain ⟨hrelative, hloose⟩ := not_or.mp hnot
    exact (l.leaves_of_relative hloose hrelative).1 hstays.1
  · rintro (habsolute | hanchored)
    · exact l.stays_of_absolute habsolute
    · exact l.stays_of_anchored hanchored name

end Location

end StorageDispatch
