import Mathlib.Data.List.Basic
import Mathlib.Tactic.Common

/-!
# Request URLs of the git proxy

The git proxy compares parsed URLs. This file models the parts of Go's `net/url` that
the comparison reads, and the two functions `hostsMatch` and `getPort` of the proxy
package. Go strings are lists of characters.
-/

namespace RenkuNotebooks.GitProxy

abbrev GoString := List Char

/-- The fields of `url.URL` that the proxy reads. `host` is `host` or `host:port`. -/
structure Url where
  scheme : GoString
  host : GoString
  path : GoString
  deriving DecidableEq, Repr

/-- What stands before and after the last colon. -/
def cutLastColon : GoString → Option (GoString × GoString)
  | [] => none
  | c :: rest =>
    match cutLastColon rest with
    | some (before, after) => some (c :: before, after)
    | none => if c = ':' then some ([], rest) else none

/-- An IPv6 literal is written in brackets, which are not part of the host name. -/
def stripBrackets (host : GoString) : GoString :=
  if host.head? = some '[' ∧ host.getLast? = some ']' then host.tail.dropLast else host

def splitHostPort (hostPort : GoString) : GoString × GoString :=
  match cutLastColon hostPort with
  | some (host, port) =>
    -- a colon that is not followed by digits only belongs to the host
    if port.all Char.isDigit then (stripBrackets host, port) else (stripBrackets hostPort, [])
  | none => (stripBrackets hostPort, [])

def Url.hostname (u : Url) : GoString := (splitHostPort u.host).1

def Url.port (u : Url) : GoString := (splitHostPort u.host).2

/-- The literal prefix that the proxy adds to host names and looks for in them. -/
def www : GoString := "www.".toList

/-- Ensure that host names match with and without a leading `www.`. -/
def hostsMatch (url1 url2 : Url) : Bool :=
  let url1ContainsWww := www.isPrefixOf url1.hostname
  let url2ContainsWww := www.isPrefixOf url2.hostname
  if url1ContainsWww && !url2ContainsWww then url1.hostname == www ++ url2.hostname
  else if !url1ContainsWww && url2ContainsWww then www ++ url1.hostname == url2.hostname
  else url1.hostname == url2.hostname

/-- The port, inferred from the scheme where none is given. -/
def getPort (u : Url) : GoString :=
  if u.port = [] then
    if u.scheme = "http".toList then "80".toList
    else if u.scheme = "https".toList then "443".toList
    else u.port
  else u.port

/-- A host name without one leading `www.`. -/
def stripWww (host : GoString) : GoString :=
  if www.isPrefixOf host then host.drop 4 else host

lemma stripWww_append (host : GoString) : stripWww (www ++ host) = host := by
  simp [stripWww, www]

lemma stripWww_of_not_www {host : GoString} (h : www.isPrefixOf host = false) :
    stripWww host = host := by
  simp [stripWww, h]

lemma eq_append_stripWww {host : GoString} (h : www.isPrefixOf host = true) :
    host = www ++ stripWww host := by
  obtain ⟨rest, rfl⟩ := List.isPrefixOf_iff_prefix.mp h
  rw [stripWww_append]

/-- The structural comparison is equality of host names up to a leading `www.`. -/
theorem hostsMatch_iff (u v : Url) :
    hostsMatch u v = true ↔ stripWww u.hostname = stripWww v.hostname := by
  cases hu : www.isPrefixOf u.hostname <;> cases hv : www.isPrefixOf v.hostname
  · simp [hostsMatch, hu, hv, stripWww_of_not_www]
  · have hv' := eq_append_stripWww hv
    simp only [hostsMatch, hu, hv, stripWww_of_not_www hu]
    constructor
    · intro h
      have h' : www ++ u.hostname = v.hostname := by simpa using h
      rw [← h', stripWww_append]
    · intro h
      simp [h, ← hv']
  · have hu' := eq_append_stripWww hu
    simp only [hostsMatch, hu, hv, stripWww_of_not_www hv]
    constructor
    · intro h
      have h' : u.hostname = www ++ v.hostname := by simpa using h
      rw [h', stripWww_append]
    · intro h
      simp [← h, ← hu']
  · have hu' := eq_append_stripWww hu
    have hv' := eq_append_stripWww hv
    simp only [hostsMatch, hu, hv]
    constructor
    · intro h
      have h' : u.hostname = v.hostname := by simpa using h
      rw [h']
    · intro h
      rw [hu', hv', h]
      simp

/-! ### Where `splitHostPort` cuts -/

lemma cutLastColon_eq_none_iff (s : GoString) : cutLastColon s = none ↔ ':' ∉ s := by
  induction s with
  | nil => simp [cutLastColon]
  | cons c rest ih =>
    cases h : cutLastColon rest with
    | none =>
      have hrest := ih.mp h
      by_cases hc : c = ':'
      · simp [cutLastColon, h, hc]
      · simp [cutLastColon, h, hc, hrest, Ne.symm hc]
    | some p =>
      have hrest : ':' ∈ rest := by
        by_contra hn
        simp [ih.mpr hn] at h
      simp [cutLastColon, h, hrest]

lemma cutLastColon_append (host port : GoString) (h : ':' ∉ port) :
    cutLastColon (host ++ ':' :: port) = some (host, port) := by
  induction host with
  | nil => simp [cutLastColon, (cutLastColon_eq_none_iff port).mpr h]
  | cons c rest ih => simp [cutLastColon, ih]

lemma cutLastColon_eq_some {s host port : GoString} (h : cutLastColon s = some (host, port)) :
    s = host ++ ':' :: port := by
  induction s generalizing host with
  | nil => simp [cutLastColon] at h
  | cons c rest ih =>
    cases hr : cutLastColon rest with
    | none =>
      by_cases hc : c = ':'
      · simp [cutLastColon, hr, hc] at h
        simp [h.1, h.2, hc]
      · simp [cutLastColon, hr, hc] at h
    | some p =>
      simp only [cutLastColon, hr, Option.some.injEq, Prod.mk.injEq] at h
      obtain ⟨rfl, rfl⟩ := h
      rw [ih hr]
      rfl

end RenkuNotebooks.GitProxy
