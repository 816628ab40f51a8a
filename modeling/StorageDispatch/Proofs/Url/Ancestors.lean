import Mathlib.Data.Set.Basic
import Mathlib.Logic.Relation
import StorageDispatch.Url

set_option autoImplicit false

/-! # The directories around a URL

`parentUrl?` goes from a URL to the directory around it, and `UrlChain url` is everything that it comes to when it
is repeated, with the URL itself. A set of directories is `ParentClosed` if no directory of it is without the one
around it.

**The result** is `climb_iff`: for a closed set it is enough to climb to the first directory that is in it,
because all directories around that one are in it too.
-/

namespace StorageDispatch

open Relation

/-! ## Climbing -/

theorem ancestorUrls_of_none {url : String} (h : parentUrl? url = none) : ancestorUrls url = [] := by
  have hnone : Url.parent? url.toList = none := Option.map_eq_none_iff.mp h
  rw [ancestorUrls, Url.ancestors]
  split
  · rfl
  · rename_i up hup
    cases hnone.symm.trans hup

theorem ancestorUrls_of_some {url up : String} (h : parentUrl? url = some up) :
    ancestorUrls url = up :: ancestorUrls up := by
  obtain ⟨above, habove, rfl⟩ := Option.map_eq_some_iff.mp h
  rw [ancestorUrls, Url.ancestors]
  split
  · rename_i hnone
    cases hnone.symm.trans habove
  · rename_i found hfound
    cases habove.symm.trans hfound
    rw [ancestorUrls, String.toList_ofList]
    rfl

/-- Slashes at the end of a URL are not those of a directory, and the root of a storage is around nothing. -/
example : ancestorUrls "mem://h/a/b//" = ["mem://h/a"] := by cbv

/-- The directory around a URL is shorter. -/
theorem length_of_parentUrl? {url up : String} (h : parentUrl? url = some up) : up.length < url.length := by
  obtain ⟨above, habove, rfl⟩ := Option.map_eq_some_iff.mp h
  rw [String.length_ofList, ← String.length_toList]
  exact Url.length_of_parent? habove

/-- What is true of a URL whenever it is true of the directory around it is true of every URL. -/
theorem parentUrl?_induction {P : String → Prop} (hstep : ∀ url, (∀ up, parentUrl? url = some up → P up) → P url)
    (url : String) : P url :=
  hstep url fun up _ => parentUrl?_induction hstep up
termination_by url.length
decreasing_by exact length_of_parentUrl? ‹_›

/-! ## Chains -/

/-- **A URL and the directories around it**: whatever is reached by going from a URL to the directory around it, any
number of times. -/
def UrlChain (url : String) : Set String := {up | ReflTransGen (fun url up => parentUrl? url = some up) url up}

theorem self_mem_urlChain (url : String) : url ∈ UrlChain url := ReflTransGen.refl

/-- The chain goes on with the chain of the directory around its beginning. -/
theorem mem_urlChain_of_some {url up v : String} (h : parentUrl? url = some up) :
    v ∈ UrlChain url ↔ v = url ∨ v ∈ UrlChain up := by
  constructor
  · intro hv
    rcases ReflTransGen.cases_head hv with rfl | ⟨next, hnext, hv⟩
    · exact .inl rfl
    · cases h.symm.trans hnext
      exact .inr hv
  · rintro (rfl | hv)
    · exact self_mem_urlChain _
    · exact ReflTransGen.head h hv

/-- The chain ends where no directory is around. -/
theorem mem_urlChain_of_none {url v : String} (h : parentUrl? url = none) : v ∈ UrlChain url ↔ v = url := by
  constructor
  · intro hv
    rcases ReflTransGen.cases_head hv with rfl | ⟨next, hnext, -⟩
    · rfl
    · cases h.symm.trans hnext
  · rintro rfl
    exact self_mem_urlChain _

/-! ## Closed sets -/

/-- **With a directory, the directory around it is there.** -/
def ParentClosed (dirs : Set String) : Prop := ∀ url ∈ dirs, ∀ up, parentUrl? url = some up → up ∈ dirs

namespace ParentClosed

variable {dirs more : Set String} {url : String}

/-- With a directory, all directories around it are there. -/
theorem urlChain_subset (h : ParentClosed dirs) (hurl : url ∈ dirs) : UrlChain url ⊆ dirs := by
  intro v hv
  induction hv with
  | refl => exact hurl
  | tail _ hstep ih => exact h _ ih _ hstep

theorem urlChain (url : String) : ParentClosed (UrlChain url) := fun _ hv _ hup => ReflTransGen.tail hv hup

theorem union (h : ParentClosed dirs) (hmore : ParentClosed more) : ParentClosed (dirs ∪ more) := by
  rintro v (hv | hv) up hup
  · exact .inl (h v hv up hup)
  · exact .inr (hmore v hv up hup)

/-- A directory may be added if the one around it is there. -/
theorem insert_of_parent (h : ParentClosed dirs) (hparent : ∀ up, parentUrl? url = some up → up ∈ dirs) :
    ParentClosed (insert url dirs) := by
  rintro v (rfl | hv) up hup
  · exact .inr (hparent up hup)
  · exact .inr (h v hv up hup)

/-- **It is enough to climb to the first directory that is there.** -/
theorem climb_iff (h : ParentClosed dirs) {missing : String → Bool}
    (hmissing : ∀ v, missing v = true ↔ v ∉ dirs) (url v : String) :
    (v = url ∨ v ∈ dirs ∨ v ∈ (ancestorUrls url).takeWhile missing) ↔ v ∈ dirs ∨ v ∈ UrlChain url := by
  induction url using parentUrl?_induction with
  | hstep url ih =>
      cases hup : parentUrl? url with
      | none =>
          simp only [ancestorUrls_of_none hup, mem_urlChain_of_none hup, List.takeWhile_nil, List.not_mem_nil, or_false]
          exact or_comm
      | some up =>
          rw [ancestorUrls_of_some hup, mem_urlChain_of_some hup]
          by_cases hmem : up ∈ dirs
          · -- The climb ends at once, and the rest of the chain is there.
            have hstop : ¬ missing up = true := (hmissing up).not.mpr (not_not.mpr hmem)
            rw [List.takeWhile_cons_of_neg hstop]
            constructor
            · rintro (rfl | hv | hv)
              · exact .inr (.inl rfl)
              · exact .inl hv
              · cases hv
            · rintro (hv | rfl | hv)
              · exact .inr (.inl hv)
              · exact .inl rfl
              · exact .inr (.inl (h.urlChain_subset hmem hv))
          · -- The climb goes on from the next directory.
            rw [List.takeWhile_cons_of_pos ((hmissing up).mpr hmem), List.mem_cons]
            calc v = url ∨ v ∈ dirs ∨ v = up ∨ v ∈ (ancestorUrls up).takeWhile missing
                ↔ v = url ∨ v = up ∨ v ∈ dirs ∨ v ∈ (ancestorUrls up).takeWhile missing :=
                  or_congr_right or_left_comm
              _ ↔ v = url ∨ v ∈ dirs ∨ v ∈ UrlChain up := or_congr_right (ih up hup)
              _ ↔ v ∈ dirs ∨ v = url ∨ v ∈ UrlChain up := or_left_comm

end ParentClosed

end StorageDispatch
