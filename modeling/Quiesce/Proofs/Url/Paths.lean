/-
# Segments of paths

The path of a web URL is read as segments, and none of them holds a slash. So the text of the path
tells where its segments end. A text pushed to the path becomes one more segment: none of its
characters ends a segment or a path there, and it is read back from the segment but for tabs and
line ends. Only a text that is a dot segment but for these is not pushed in this way.
-/

import Mathlib.Data.List.Basic
import Quiesce.Proofs.Text.Percent
import Quiesce.Url.Reading

namespace Quiesce.Url

/-! ## Paths as they are read -/

/-- Whether a URL has a path of segments without slashes. -/
def Segmented (url : Url) : Prop :=
  ∃ parts, url.path = .segments parts ∧ ∀ part ∈ parts, '/' ∉ part.toList

/-- The pieces of a split list hold nothing to split at. -/
private theorem not_of_mem_splitOnP {α : Type} {separates : α → Bool} {whole piece : List α}
    (among : piece ∈ whole.splitOnP separates) : ∀ x ∈ piece, ¬ separates x := by
  induction whole generalizing piece with
  | nil =>
    rw [List.splitOnP_nil] at among
    rw [List.mem_singleton.mp among]
    exact List.forall_mem_nil _
  | cons first rest ih =>
    rw [List.splitOnP_cons_eq_if_modifyHead] at among
    split at among
    next =>
      rcases List.mem_cons.mp among with rfl | among
      · exact List.forall_mem_nil _
      · exact ih among
    next kept =>
      generalize pieces : rest.splitOnP separates = split at among ih
      cases split with
      | nil => cases among
      | cons piece more =>
        rcases List.mem_cons.mp among with rfl | among
        · exact List.forall_mem_cons.mpr ⟨kept, ih (.head _)⟩
        · exact ih (.tail _ among)

variable {above : List String}

/-- Leaving a segment adds none. -/
private theorem mem_of_mem_ascend {part : String} (among : part ∈ ascend above) :
    part ∈ above := by
  cases above with
  | nil => exact among
  | cons segment above =>
    rw [ascend] at among
    split at among
    · exact among
    · exact .tail _ among

/-- An added segment brings no slash that it does not hold. -/
private theorem slash_not_mem_addSegment (last : Bool) {segment : String}
    (single : '/' ∉ segment.toList) (aboveSingle : ∀ part ∈ above, '/' ∉ part.toList) :
    ∀ part ∈ addSegment last above segment, '/' ∉ part.toList := by
  have behind : ∀ part ∈ if last then [""] else [], '/' ∉ part.toList := by
    cases last <;> decide
  intro part among
  rw [addSegment] at among
  split at among
  · rcases List.mem_append.mp among with among | among
    · exact behind part among
    · exact aboveSingle part (mem_of_mem_ascend among)
  split at among
  · rcases List.mem_append.mp among with among | among
    · exact behind part among
    · exact aboveSingle part among
  · rcases List.mem_cons.mp among with rfl | among
    · exact single
    · exact aboveSingle part among

/-- Encoding for a path makes no slashes. -/
private theorem slash_not_mem_encoded {escaped : Char → Bool} {text : List Char}
    (single : '/' ∉ text) : '/' ∉ (encoded escaped text).toList := by
  rw [encoded, String.toList_ofList]
  intro among
  rcases Percent.mem_of_mem_encode among with ⟨among, -⟩ | mark
  · exact single among
  · exact absurd mark (by decide)

/-- Segments that are added one after another bring no slash that they do not hold. -/
private theorem slash_not_mem_addSegments {segments : List (List Char)}
    (single : ∀ segment ∈ segments, '/' ∉ segment)
    (aboveSingle : ∀ part ∈ above, '/' ∉ part.toList) :
    ∀ part ∈ addSegments above segments, '/' ∉ part.toList := by
  induction above, segments using addSegments.induct with
  | case1 above => exact aboveSingle
  | case2 above segment =>
    exact slash_not_mem_addSegment true (slash_not_mem_encoded (single segment (.head _)))
      aboveSingle
  | case3 above segment rest more ih =>
    rw [addSegments.eq_3 _ _ _ more]
    apply ih
    · intro other among
      exact single other (.tail _ among)
    · exact slash_not_mem_addSegment false (slash_not_mem_encoded (single segment (.head _)))
        aboveSingle

/-- What a URL of a special scheme is read with behind its authority is a path of segments. -/
private theorem segmented_withTail {before : Url} (special : isSpecial before.scheme)
    (behind : List Char) : (withTail before behind).Segmented := by
  refine ⟨_, rfl, ?_⟩
  rw [special, readPath, if_neg (fun unguarded => unguarded.2 rfl)]
  intro part among
  refine slash_not_mem_addSegments (fun segment among slash => ?_) (List.forall_mem_nil _) part
    (List.mem_reverse.mp among)
  exact not_of_mem_splitOnP among '/' slash rfl

variable {scheme : String} {text : List Char} {url : Url}

/-- What is read behind two slashes is an authority and what follows it. -/
private theorem exists_of_readAuthority (read : readAuthority scheme text = some url) :
    ∃ before behind, before.scheme = scheme ∧ url = withTail before behind := by
  unfold readAuthority at read
  dsimp only at read
  split at read
  · cases read
  split at read
  all_goals
    obtain ⟨host, -, read⟩ := Option.bind_eq_some_iff.mp read
    split at read
    · cases read
    obtain ⟨⟨port, behind⟩, -, read⟩ := Option.bind_eq_some_iff.mp read
    exact ⟨_, _, rfl, (Option.some.inj read).symm⟩

/-- The scheme stays as it is, and that of the web brings a path of segments. -/
private theorem scheme_of_ofParts? (read : ofParts? scheme text = some url) :
    url.scheme = scheme ∧ (isSpecial scheme → url.Segmented) := by
  have authority {text : List Char} (read : readAuthority scheme text = some url) :
      url.scheme = scheme ∧ (isSpecial scheme → url.Segmented) := by
    obtain ⟨before, behind, rfl, rfl⟩ := exists_of_readAuthority read
    exact ⟨rfl, fun special => segmented_withTail special behind⟩
  unfold ofParts? at read
  split at read
  next => exact authority read
  next other =>
    split at read
    next => exact authority read
    next =>
      obtain rfl := Option.some.inj read
      exact ⟨rfl, fun special => absurd special other⟩
    next =>
      obtain rfl := Option.some.inj read
      exact ⟨rfl, fun special => absurd special other⟩

/-- The URL of a file has its scheme. -/
private theorem scheme_of_readFile (read : readFile text = some url) : url.scheme = "file" := by
  have whole {host : Host} {text : List Char} (read : some (fileWithTail host text) = some url) :
      url.scheme = "file" := by
    obtain rfl := Option.some.inj read
    rfl
  have authority {text : List Char} (read : readFileAuthority text = some url) :
      url.scheme = "file" := by
    unfold readFileAuthority at read
    dsimp only at read
    split at read
    · exact whole read
    split at read
    · exact whole read
    · obtain ⟨host, -, rfl⟩ := Option.map_eq_some_iff.mp read
      rfl
  unfold readFile at read
  split at read
  next =>
    split at read
    next =>
      split at read
      · exact authority read
      · exact whole read
    next => exact whole read
  next => exact whole read

/-- A URL of the web is read with a path of segments. -/
theorem segmented_of_parse? {text : String} (read : parse? text = some url)
    (special : isSpecial url.scheme) (notFile : url.scheme ≠ "file") : url.Segmented := by
  unfold parse? at read
  split at read
  · exact absurd (scheme_of_readFile read) notFile
  · obtain ⟨rfl, segmented⟩ := scheme_of_ofParts? read
    exact segmented special
  · cases read

/-! ## Pushed texts -/

/-- A text without tabs and line ends. -/
def stripped (text : String) : String :=
  String.ofList (text.toList.filter fun c => c ∉ ['\t', '\n', '\r'])

/-- These are the characters that do not count. -/
private theorem toList_stripped (text : String) :
    (stripped text).toList = text.toList.filter (!isIgnored ·) := by
  rw [stripped, String.toList_ofList]
  apply List.filter_congr
  intro c _
  simp [isIgnored, Bool.and_assoc]

/-- The segment of a text that is pushed to a path. -/
def segmentFor (scheme text : String) : String :=
  encoded (inSegmentSet (isSpecial scheme)) (stripped text).toList

/-- A text is read back from its segment but for tabs and line ends. -/
theorem decode_segmentFor (scheme text : String) :
    Percent.decode (Utf8.encode (segmentFor scheme text)) = Utf8.encode (stripped text) := by
  have guarded : inSegmentSet (isSpecial scheme) '%' := by
    cases isSpecial scheme <;> decide
  rw [segmentFor, encoded, Percent.decode_encode guarded, String.ofList_toList]

/-- So two texts have one segment only if they agree but for these. -/
theorem stripped_eq_of_segmentFor_eq (scheme : String) {text other : String}
    (same : segmentFor scheme text = segmentFor scheme other) : stripped text = stripped other := by
  apply Utf8.encode_injective
  rw [← decode_segmentFor scheme, same, decode_segmentFor]

/-- The segment of a text is no dot segment unless the text is, but for these. -/
theorem not_isDot_segmentFor (scheme : String) {text : String}
    (plain : stripped text ≠ "." ∧ stripped text ≠ "..") :
    isDoubleDot (segmentFor scheme text) = false ∧ isSingleDot (segmentFor scheme text) = false := by
  -- Every spelling of a dot segment is read back as that dot segment.
  have spells (dots : String) {spellings : List String}
      (read : ∀ spelling ∈ spellings, Percent.decode (Utf8.encode spelling) = Utf8.encode dots)
      (other : stripped text ≠ dots) : spellings.contains (segmentFor scheme text) = false := by
    rw [Bool.eq_false_iff]
    intro among
    apply other
    apply Utf8.encode_injective
    rw [← decode_segmentFor scheme, read _ (List.contains_iff_mem.mp among)]
  constructor
  · exact spells ".." (by decide +kernel) plain.2
  · exact spells "." (by decide +kernel) plain.1

/-- Any other text is pushed as one segment, which replaces that of a path that is just a slash. -/
theorem pushSegment_of_plain {scheme text : String} (notFile : scheme ≠ "file")
    (plain : stripped text ≠ "." ∧ stripped text ≠ "..") (parts : List String) :
    pushSegment scheme parts text =
      (if parts = [""] then [] else parts) ++ [segmentFor scheme text] := by
  have notDot : ¬ (text = "." ∨ text = "..") := by
    rintro (rfl | rfl)
    · exact plain.1 (by decide)
    · exact plain.2 (by decide)
  obtain ⟨notDouble, notSingle⟩ := not_isDot_segmentFor scheme plain
  have segment : encoded (inSegmentSet (isSpecial scheme)) (text.toList.filter (!isIgnored ·)) =
      segmentFor scheme text := by
    rw [segmentFor, toList_stripped]
  simp only [pushSegment, if_neg notDot, segment, addSegment, notDouble, notSingle,
    Bool.false_eq_true, if_false, if_neg notFile, List.reverse_cons]
  split <;> simp

/-- What stands in a segment is ASCII and ends neither a segment nor a path of the web. -/
theorem plain_of_mem_segmentFor {scheme : String} (special : isSpecial scheme) {text : String}
    {c : Char} (mem : c ∈ (segmentFor scheme text).toList) :
    c.toNat < 128 ∧ c ∉ ['/', '?', '#', '\\'] := by
  rw [segmentFor, encoded, String.toList_ofList, special] at mem
  rcases Percent.mem_of_mem_encode mem with ⟨-, unescaped⟩ | mark
  · constructor
    · have control : isControl c = false := by
        rw [Bool.eq_false_iff]
        intro control
        simp [inSegmentSet, inPathSet, inFragmentSet, control] at unescaped
      simp only [isControl, Bool.or_eq_false_iff, decide_eq_false_iff_not] at control
      omega
    · intro among
      have escaped : ['/', '?', '#', '\\'].all (inSegmentSet true) := by decide
      rw [List.all_eq_true.mp escaped c among] at unescaped
      cases unescaped
  · exact Percent.of_mem_marks (fun c => c.toNat < 128 ∧ c ∉ ['/', '?', '#', '\\']) (by decide) mark

/-! ## Texts of paths -/

/-- The text of a path of segments. -/
def joined (parts : List String) : List Char :=
  parts.flatMap fun part => '/' :: part.toList

theorem toList_pathText {url : Url} {parts : List String} (path : url.path = .segments parts) :
    url.pathText.toList = joined parts := by
  rw [pathText, path, String.toList_join, List.flatMap_map, joined]
  simp only [String.toList_append]
  rfl

/-- What is left of the text of a path before the segments that are pushed: without a slash at its
end, if there is more of it, and without the slash that is all of it then. -/
def stemOf (path : List Char) : List Char :=
  let kept := if 1 < path.length ∧ path.getLast? = some '/' then path.dropLast else path
  if kept = ['/'] then [] else kept

/-- The segments to which others are pushed. -/
def trunk (parts : List String) : List String :=
  if dropTrailing parts = [""] then [] else dropTrailing parts

/-- Only the path of one empty segment is just a slash. -/
private theorem joined_eq_slash_iff {parts : List String} : joined parts = ['/'] ↔ parts = [""] := by
  cases parts with
  | nil => decide
  | cons part rest =>
    have nothing : joined rest = [] ↔ rest = [] := by
      cases rest <;> simp [joined]
    rw [joined, List.flatMap_cons, List.cons_append, List.cons.injEq, List.append_eq_nil_iff,
      String.toList_eq_nil_iff, ← joined, nothing, List.cons.injEq]
    exact and_iff_right rfl

/-- An empty segment at the end of a path shows as a slash there. -/
private theorem joined_dropTrailing {parts : List String}
    (single : ∀ part ∈ parts, '/' ∉ part.toList) : joined (dropTrailing parts) =
      if 1 < (joined parts).length ∧ (joined parts).getLast? = some '/' then
        (joined parts).dropLast
      else joined parts := by
  obtain rfl | ⟨front, last, rfl⟩ := parts.eq_nil_or_concat
  · rfl
  rw [List.concat_eq_append] at single ⊢
  have text : joined (front ++ [last]) = joined front ++ '/' :: last.toList := by simp [joined]
  by_cases empty : last = ""
  · subst empty
    cases front with
    | nil => rfl
    | cons first rest =>
      have dropped : dropTrailing (first :: rest ++ [""]) = first :: rest := by
        rw [dropTrailing, if_pos ⟨by simp, List.getLast?_concat⟩, List.dropLast_concat]
      have longer : 1 < (joined (first :: rest) ++ ['/']).length := by
        simp only [joined, List.flatMap_cons, List.length_append, List.length_cons]
        omega
      have ended : joined (first :: rest ++ [""]) = joined (first :: rest) ++ ['/'] := text
      rw [dropped, ended, if_pos ⟨longer, List.getLast?_concat⟩, List.dropLast_concat]
  · have kept : dropTrailing (front ++ [last]) = front ++ [last] := by simp [dropTrailing, empty]
    have ends : (joined (front ++ [last])).getLast? ≠ some '/' := by
      have given : last.toList ≠ [] := by simpa using empty
      rw [text, List.getLast?_append_of_ne_nil _ (List.cons_ne_nil _ _),
        List.getLast?_cons_of_ne_nil given]
      intro slash
      exact single last (by simp) (List.mem_of_getLast? slash)
    rw [kept, if_neg (fun dropped => ends dropped.2)]

/-- The text of a trunk is the stem of the text. -/
theorem joined_trunk {parts : List String} (single : ∀ part ∈ parts, '/' ∉ part.toList) :
    joined (trunk parts) = stemOf (joined parts) := by
  rw [trunk, stemOf, ← joined_dropTrailing single]
  simp only [joined_eq_slash_iff]
  split
  · rfl
  · rfl

/-- URLs that differ in nothing but their paths have one text just when their paths have. -/
theorem text_eq_iff {url other : Url} (base : Url) (kept : url = { base with path := url.path })
    (otherKept : other = { base with path := other.path }) :
    url.text = other.text ↔ url.pathText = other.pathText := by
  have spelled (path : Path) : ({ base with path } : Url).text =
      base.scheme ++ ":" ++ base.authorityText ++ ({ base with path } : Url).pathText ++
        marked "?" base.query ++ marked "#" base.fragment := rfl
  rw [kept, otherKept, spelled, spelled other.path, String.append_left_inj, String.append_left_inj,
    String.append_right_inj]

end Quiesce.Url
