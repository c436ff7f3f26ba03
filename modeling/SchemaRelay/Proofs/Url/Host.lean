import SchemaRelay.Proofs.Results
import SchemaRelay.Url.Parser

/-!
# Hosts of URLs that were read

A URL of the web has a host (`hasHost_of_special`): its authority is read with one that is not empty
(`readAuthority_host`), and what is read without an authority of that kind has another scheme.
-/

namespace SchemaRelay.Url

variable {scheme s left : List Char} {host : Host} {a : Authority} {followed : Bool} {text : String} {url : Url}

theorem specialHost_ne_nil (h : specialHost s = .ok host) : host ≠ .domain [] := by
  unfold specialHost at h
  split at h
  · unfold bracketed at h
    split at h
    · split at h
      · cases h
        exact nofun
      · cases h
    · cases h
  · split at h
    · cases h
    · cases h
    · next name hne _ =>
      split at h
      · split at h
        · cases h
          exact nofun
        · cases h
      · cases h
        simpa using hne

/-- The authority of a special URL has a host. -/
theorem readAuthority_host (hs : isSpecial scheme = true) (h : readAuthority scheme s followed = .ok (a, left)) :
    a.host ≠ .domain [] := by
  simp only [readAuthority, hs, if_pos, ite_throw_eq_ok, bind_eq_ok] at h
  obtain ⟨-, -, host, hhost, -, _, -, -, hpure⟩ := h
  cases hpure
  exact specialHost_ne_nil hhost

theorem afterSlashes_scheme (h : afterSlashes scheme s = .ok url) : url.scheme = scheme := by
  simp only [afterSlashes, bind_eq_ok] at h
  obtain ⟨_, -, hpure⟩ := h
  cases hpure
  rfl

theorem afterSlashes_hasHost (hs : isSpecial scheme = true) (h : afterSlashes scheme s = .ok url) :
    url.hasHost = true := by
  simp only [afterSlashes, bind_eq_ok] at h
  obtain ⟨⟨a, left⟩, ha, hpure⟩ := h
  cases hpure
  exact bne_iff_ne.2 (readAuthority_host hs ha)

theorem fileUrl_scheme (h : fileUrl scheme s = .ok url) : url.scheme = scheme := by
  unfold fileUrl at h
  simp only at h
  split at h
  · split at h
    · split at h
      · cases h
        rfl
      · split at h
        · cases h
          rfl
        · rw [bind_eq_ok] at h
          obtain ⟨_, -, hpure⟩ := h
          cases hpure
          rfl
    · cases h
      rfl
  · cases h
    rfl

theorem not_isSpecial_file : isSpecial ['f', 'i', 'l', 'e'] = false := by decide

/-- A URL of the web has a host. -/
theorem hasHost_of_special (h : parse text = .ok url) (hs : isSpecial url.scheme = true) : url.hasHost = true := by
  unfold parse at h
  split at h
  · cases h
  · next scheme rest _ =>
    split at h
    · next hfile =>
      rw [fileUrl_scheme h, eq_of_beq hfile, not_isSpecial_file] at hs
      cases hs
    · split at h
      · next hscheme => exact afterSlashes_hasHost hscheme h
      · next hscheme =>
        split at h
        · rw [afterSlashes_scheme h] at hs
          exact absurd hs hscheme
        · cases h
          exact absurd hs hscheme
        · cases h
          exact absurd hs hscheme

end SchemaRelay.Url
