/-
# Where the stop of a service is requested

The URL that requests the stop of a service is that of the orchestrator with three segments more,
and the service is the middle one. It is read back from there but for tabs and line ends, so that
services that differ in anything else never share a URL. `stop_url_identifies_service` says so of
every URL of the web and of all services but those whose names are dot segments, to which no path
can lead.
-/

import Quiesce.Proofs.Url.Paths
import Quiesce.StopRequest

namespace Quiesce.StopRequest

open Url (Segmented joined segmentFor stemOf stripped trunk)

/-- The scheme of a URL of the web is special, and not that of files. -/
private theorem special_of_web {base : Url} (web : base.scheme = "http" ∨ base.scheme = "https") :
    Url.isSpecial base.scheme ∧ base.scheme ≠ "file" := by
  rcases web with http | https
  · rw [http]
    decide
  · rw [https]
    decide

/-- The orchestrator's URL is what its text spells. -/
theorem parse?_of_readBase {text : String} {base : Url} (read : readBase text = .ok base) :
    Url.parse? text = some base := by
  unfold readBase at read
  split at read
  next => cases read
  next parsed =>
    split at read
    · rw [parsed, Except.ok.inj read]
    · cases read

/-- Nothing but the path is changed for the stop of a service. -/
theorem urlFor_kept (base : Url) (service : String) :
    urlFor base service = { base with path := (urlFor base service).path } := by
  unfold urlFor Url.extendPath
  split
  · rfl
  · rfl

variable {base : Url} {parts : List String} {service other : String}

section

variable (path : base.path = .segments parts) (notFile : base.scheme ≠ "file")
  (plain : stripped service ≠ "." ∧ stripped service ≠ "..")
include path notFile plain

/-- Three segments are added to the path. -/
private theorem path_urlFor : (urlFor base service).path =
    .segments (trunk parts ++ ["services", segmentFor base.scheme service, "stop"]) := by
  -- The words around the service need no encoding, whatever the scheme.
  have word : segmentFor base.scheme "services" = "services" ∧
      segmentFor base.scheme "stop" = "stop" := by
    unfold segmentFor
    cases Url.isSpecial base.scheme <;> decide +kernel
  have pushed : Url.pushSegment base.scheme (Url.dropTrailing parts) "services" =
      trunk parts ++ ["services"] := by
    rw [Url.pushSegment_of_plain notFile (by decide), ← trunk, word.1]
  have more : trunk parts ++ ["services"] ≠ [""] := by
    simp [List.append_eq_singleton_iff]
  have evenMore (segment : String) : trunk parts ++ ["services"] ++ [segment] ≠ [""] := by
    simp [List.append_eq_singleton_iff]
  unfold urlFor Url.extendPath
  rw [path]
  simp only [List.foldl_cons, List.foldl_nil]
  rw [pushed, Url.pushSegment_of_plain notFile plain, if_neg more,
    Url.pushSegment_of_plain notFile (by decide), if_neg (evenMore _), word.2]
  simp only [List.append_assoc, List.cons_append, List.nil_append]

/-- The service is written between two words. -/
private theorem pathText_urlFor (single : ∀ part ∈ parts, '/' ∉ part.toList) :
    (urlFor base service).pathText.toList = stemOf base.pathText.toList ++ "/services/".toList ++
      (segmentFor base.scheme service).toList ++ "/stop".toList := by
  have before : joined ["services"] ++ ['/'] = "/services/".toList := by decide
  have after : joined ["stop"] = "/stop".toList := by decide
  rw [Url.toList_pathText path, ← Url.joined_trunk single, ← before, ← after,
    Url.toList_pathText (path_urlFor path notFile plain)]
  simp [joined]

end

/-- What is not written does not count. -/
private theorem urlFor_congr (path : base.path = .segments parts) (notFile : base.scheme ≠ "file")
    (plain : stripped service ≠ "." ∧ stripped service ≠ "..")
    (same : stripped other = stripped service) : urlFor base other = urlFor base service := by
  rw [urlFor_kept base other, urlFor_kept base service, path_urlFor path notFile plain,
    path_urlFor path notFile (by rwa [same]), segmentFor, same, ← segmentFor]

/-- The line that records a request tells the path of its URL. -/
private theorem pathText_of_requestLine
    (same : requestLine (urlFor base other) = requestLine (urlFor base service)) :
    (urlFor base other).pathText = (urlFor base service).pathText := by
  let bare (url : Url) : Url := { url with username := "", password := "", fragment := none }
  have kept (service : String) : bare (urlFor base service) =
      { bare base with path := (bare (urlFor base service)).path } := by
    rw [urlFor_kept base service]
  have texts : (bare (urlFor base other)).text = (bare (urlFor base service)).text :=
    (String.append_right_inj _).mp ((String.append_left_inj _).mp same)
  exact (Url.text_eq_iff (bare base) (kept other) (kept service)).mp texts

/-- The URL that requests the stop of a service from an orchestrator on the web identifies the
service. It is the orchestrator's but for its path. That is the path from before, up to a slash at
its end, and the service as one segment between two words; the segment is read back as the service
but for tabs and line ends, in which alone services with one URL can differ. -/
theorem stop_url_identifies_service {text : String} {base : Url} (read : readBase text = .ok base)
    (web : base.scheme = "http" ∨ base.scheme = "https") {service : String}
    (plain : stripped service ≠ "." ∧ stripped service ≠ "..") :
    let url := urlFor base service
    url = { base with path := url.path } ∧
    (∃ segment : List Char,
      url.pathText.toList =
        stemOf base.pathText.toList ++ "/services/".toList ++ segment ++ "/stop".toList ∧
      (∀ c ∈ segment, c.toNat < 128 ∧ c ∉ ['/', '?', '#', '\\']) ∧
      Percent.decode (Utf8.encode (String.ofList segment)) = Utf8.encode (stripped service)) ∧
    ∀ other, stripped other ≠ "." ∧ stripped other ≠ ".." →
      (urlFor base other = url ↔ stripped other = stripped service) ∧
      (requestLine (urlFor base other) = requestLine url ↔ stripped other = stripped service) := by
  intro url
  obtain ⟨special, notFile⟩ := special_of_web web
  obtain ⟨parts, path, single⟩ :=
    Url.segmented_of_parse? (parse?_of_readBase read) special notFile
  have written {service : String} (plain : stripped service ≠ "." ∧ stripped service ≠ "..") :=
    pathText_urlFor path notFile plain single
  refine ⟨urlFor_kept base service, ⟨_, written plain, fun c => Url.plain_of_mem_segmentFor special,
    ?_⟩, fun other otherPlain => ?_⟩
  · rw [String.ofList_toList]
    exact Url.decode_segmentFor base.scheme service
  have forward (same : (urlFor base other).pathText = url.pathText) :
      stripped other = stripped service := by
    apply Url.stripped_eq_of_segmentFor_eq base.scheme
    have texts := congrArg String.toList same
    rw [written plain, written otherPlain] at texts
    apply String.toList_inj.mp
    exact List.append_cancel_left (List.append_cancel_right texts)
  have backward (same : stripped other = stripped service) : urlFor base other = url :=
    urlFor_congr path notFile plain same
  exact ⟨⟨fun same => forward (congrArg Url.pathText same), backward⟩,
    ⟨fun same => forward (pathText_of_requestLine same),
      fun same => congrArg requestLine (backward same)⟩⟩

/-- A service with a slash, a blank and a letter beyond ASCII. A tab makes no other URL of it, and
what its URL spells is another service. -/
theorem stop_url_identifies_service_at_slash :
    let base : Url := ⟨"http", "", "", some (.name "localhost"), some 2812, false,
      .segments ["api", ""], some "v=1", none⟩
    readBase "http://localhost:2812/api/?v=1" = .ok base ∧
      (urlFor base "lobby/1 ü").text =
        "http://localhost:2812/api/services/lobby%2F1%20%C3%BC/stop?v=1" ∧
      urlFor base "lobby/1\t ü" = urlFor base "lobby/1 ü" ∧
      urlFor base "lobby%2F1 ü" ≠ urlFor base "lobby/1 ü" := by
  intro base
  have read : readBase "http://localhost:2812/api/?v=1" = .ok base := by decide +kernel
  obtain ⟨-, -, others⟩ := stop_url_identifies_service read (.inl rfl)
    (by decide : stripped "lobby/1 ü" ≠ "." ∧ stripped "lobby/1 ü" ≠ "..")
  obtain ⟨tab, -⟩ := others "lobby/1\t ü" (by decide)
  obtain ⟨spelled, -⟩ := others "lobby%2F1 ü" (by decide)
  exact ⟨read, by decide +kernel, tab.mpr (by decide), fun same => absurd (spelled.mp same)
    (by decide)⟩

end Quiesce.StopRequest
