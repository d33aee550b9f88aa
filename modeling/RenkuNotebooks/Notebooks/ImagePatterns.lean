import Mathlib.Data.List.TakeWhile
import RenkuNotebooks.Foundation.Regex
import RenkuNotebooks.Notebooks.Images

/-!
# The patterns of image paths

`Image.from_path` tries nine regular expressions. They exclude each other, and what they find in
the path of an image is what the path was made of.
-/

namespace RenkuNotebooks.Notebooks.Image

open Regex

/-! ### The expressions -/

def isLabelChar (c : Char) : Bool := c.isAlphanum || c = '_' || c = '-'

def isPathChar (c : Char) : Bool := isNameChar c || c = '/'

def slash : Regex := .char (· = '/')

def hostnameRe : Regex :=
  .group "hostname" (seq [.start, .many isLabelChar, .char (· = '.'), .many isShaChar, .ahead slash])

def dockerUsernameRe : Regex :=
  .group "username" (seq [.start, .many (·.isAlphanum), .ahead slash])

def usernameRe : Regex :=
  .group "username" (seq [.behind (· = '/'), .many isNameChar, .ahead slash])

def imageEnd : Regex :=
  .either (.ahead (.char (· = ':'))) (.either (.ahead (.char (· = '@'))) (.ahead .finish))

def dockerImageRe : Regex :=
  .group "image" (seq [.either (.behind (· = '/')) .start, .many isNameChar, imageEnd])

def imageRe : Regex :=
  .group "image" (seq [.either (.behind (· = '/')) .start, .many isPathChar, imageEnd])

def shaRe : Regex := .group "tag" (seq [.behind (· = '@'), .many isShaChar, .ahead .finish])

def tagRe : Regex := .group "tag" (seq [.behind (· = ':'), .many isNameChar, .ahead .finish])

def buildRe (parts : List Regex) : Regex := seq ([.start] ++ parts ++ [.finish])

/-- `regexes` as they are written. -/
def patterns : List (Regex × Groups) := [
  (buildRe [dockerImageRe],
    [("hostname", "registry-1.docker.io"), ("username", "library"), ("tag", "latest")]),
  (buildRe [dockerUsernameRe, slash, dockerImageRe],
    [("hostname", "registry-1.docker.io"), ("tag", "latest")]),
  (buildRe [dockerImageRe, .char (· = ':'), tagRe],
    [("hostname", "registry-1.docker.io"), ("username", "library")]),
  (buildRe [dockerUsernameRe, slash, dockerImageRe, .char (· = ':'), tagRe],
    [("hostname", "registry-1.docker.io")]),
  (buildRe [dockerImageRe, .char (· = '@'), shaRe],
    [("hostname", "registry-1.docker.io"), ("username", "library")]),
  (buildRe [dockerUsernameRe, slash, dockerImageRe, .char (· = '@'), shaRe],
    [("hostname", "registry-1.docker.io")]),
  (buildRe [hostnameRe, slash, usernameRe, slash, imageRe], [("tag", "latest")]),
  (buildRe [hostnameRe, slash, usernameRe, slash, imageRe, .char (· = ':'), tagRe], []),
  (buildRe [hostnameRe, slash, usernameRe, slash, imageRe, .char (· = '@'), shaRe], [])]

/-- What the expressions find in a path. -/
def interpretations (path : String) : List Groups :=
  patterns.filterMap fun regex => (regex.1.matchGroups path.toList).map (fillGroups regex.2)

/-! ### The end of the text -/

theorem dropLineFeed_cons (c : Char) (cs : List Char) :
    dropLineFeed (c :: cs) = if cs = [] ∧ c = '\n' then [] else c :: dropLineFeed cs := by
  unfold dropLineFeed
  rw [List.reverse_cons]
  cases hcs : cs.reverse with
  | nil =>
    obtain rfl := List.reverse_eq_nil_iff.mp hcs
    by_cases hc : c = '\n'
    · simp [hc]
    · simp [hc]
  | cons d ds =>
    have hne : cs ≠ [] := by
      rintro rfl
      cases hcs
    by_cases hd : d = '\n'
    · simp [hd, hne]
    · simp [hd, hne]

theorem atEnd_iff {cs : List Char} : AtEnd cs ↔ dropLineFeed cs = [] := by
  show (cs = [] ∨ cs = ['\n']) ↔ _
  cases cs with
  | nil => simp [dropLineFeed]
  | cons c cs =>
    rw [dropLineFeed_cons]
    by_cases h : cs = [] ∧ c = '\n'
    · simp [h]
    · simpa [h] using fun hc hcs => h ⟨hcs, hc⟩

theorem takeWhile_dropLineFeed {p : Char → Bool} (hp : p '\n' = false) (cs : List Char) :
    (dropLineFeed cs).takeWhile p = cs.takeWhile p := by
  induction cs with
  | nil => rfl
  | cons c cs ih =>
    rw [dropLineFeed_cons]
    split
    · rename_i h
      rw [h.2, List.takeWhile_cons_of_neg (by simp [hp]), List.takeWhile_nil]
    · rw [List.takeWhile_cons, List.takeWhile_cons, ih]

theorem dropWhile_dropLineFeed {p : Char → Bool} (hp : p '\n' = false) (cs : List Char) :
    (dropLineFeed cs).dropWhile p = dropLineFeed (cs.dropWhile p) := by
  induction cs with
  | nil => rfl
  | cons c cs ih =>
    cases hc : p c with
    | true =>
      have hne : ¬ (cs = [] ∧ c = '\n') := by
        rintro ⟨-, rfl⟩
        rw [hp] at hc
        cases hc
      rw [dropLineFeed_cons, if_neg hne, List.dropWhile_cons_of_pos hc,
        List.dropWhile_cons_of_pos hc, ih]
    | false =>
      rw [List.dropWhile_cons_of_neg (by simp [hc]), dropLineFeed_cons]
      split
      · rfl
      · rw [List.dropWhile_cons_of_neg (by simp [hc])]

theorem dropLineFeed_append {word rest : List Char} (h : rest ≠ []) :
    dropLineFeed (word ++ rest) = word ++ dropLineFeed rest := by
  induction word with
  | nil => rfl
  | cons c word ih =>
    rw [List.cons_append, dropLineFeed_cons, if_neg, ih, List.cons_append]
    exact fun hempty => h (List.append_eq_nil_iff.mp hempty.1).2

/-! ### The tag -/

/-- The expressions after the image. -/
def tailRe : Option Char → Regex
  | none => seq [.finish]
  | some '@' => seq [.char (· = '@'), shaRe, .finish]
  | some c => seq [.char (· = c), tagRe, .finish]

theorem found_finish (now : Cursor) :
    (seq [.finish]).found now = if AtEnd now.rest then [[]] else [] := by
  rw [seq, seq, Regex.found, search]
  by_cases h : AtEnd now.rest
  · rw [search, if_pos h, if_pos h]
    rfl
  · rw [search, if_neg h, if_neg h]
    rfl

/-- The characters of a class up to the end, as the matchers read them. -/
theorem atEnd_dropWhile {p : Char → Bool} (hp : p '\n' = false) (cs : List Char) :
    AtEnd (cs.dropWhile p) ↔ (dropLineFeed cs).all p = true := by
  rw [atEnd_iff, ← dropWhile_dropLineFeed hp, List.dropWhile_eq_nil_iff,
    List.all_eq_true]

theorem found_tag {c : Char} {p : Char → Bool} (hp : p '\n' = false) (past cs : List Char) :
    (seq [.group "tag" (seq [.behind (· = c), .many p, .ahead .finish]), .finish]).found
        ⟨c :: past, cs⟩ =
      if dropLineFeed cs ≠ [] ∧ (dropLineFeed cs).all p = true then
        [[("tag", String.ofList (dropLineFeed cs))]]
      else [] := by
  have hsearch : (Regex.group "tag" (seq [.behind (· = c), .many p, .ahead .finish])).search
        ⟨c :: past, cs⟩ =
      if cs.takeWhile p ≠ [] ∧ AtEnd (cs.dropWhile p) then
        [(⟨(cs.takeWhile p).reverse ++ c :: past, cs.dropWhile p⟩,
          [("tag", String.ofList (cs.takeWhile p))])]
      else [] :=
    search_group_many AtEnd (by simp [search]) search_ahead_finish
      fun d rest hd => not_atEnd hp hd rest
  rw [seq]
  by_cases hend : AtEnd (cs.dropWhile p)
  · have hall := (atEnd_dropWhile hp cs).mp hend
    have hword : cs.takeWhile p = dropLineFeed cs := by
      rw [← takeWhile_dropLineFeed hp, List.takeWhile_eq_self_iff]
      exact List.all_eq_true.mp hall
    by_cases hempty : cs.takeWhile p = []
    · rw [found_both_of_nil (by rw [hsearch, if_neg fun h => h.1 hempty]), if_neg]
      exact fun h => h.1 (hword ▸ hempty)
    · rw [found_both_of_single (by rw [hsearch, if_pos ⟨hempty, hend⟩]), found_finish,
        if_pos hend, if_pos ⟨hword ▸ hempty, hall⟩, hword]
      rfl
  · rw [found_both_of_nil (by rw [hsearch, if_neg fun h => hend h.2]), if_neg]
    exact fun h => hend ((atEnd_dropWhile hp cs).mpr h.2)

theorem found_char_tag {c : Char} {p : Char → Bool} (hc : c ≠ '\n') (hp : p '\n' = false)
    (past cs : List Char) :
    (seq [.char (· = c), .group "tag" (seq [.behind (· = c), .many p, .ahead .finish]), .finish]).found
        ⟨past, cs⟩ =
      match dropLineFeed cs with
      | [] => []
      | d :: tag =>
        if d = c ∧ tag ≠ [] ∧ tag.all p = true then [[("tag", String.ofList tag)]] else [] := by
  cases cs with
  | nil => rfl
  | cons d rest =>
    by_cases hd : d = c
    · have hfirst : (Regex.char (· = c)).search ⟨past, d :: rest⟩ = [(⟨c :: past, rest⟩, [])] := by
        rw [search_char_cons (by simp [hd]), hd]
      have hne : ¬ (rest = [] ∧ d = '\n') := by
        rintro ⟨-, hfeed⟩
        exact hc (hd.symm.trans hfeed)
      rw [seq, found_both_of_single hfirst, dropLineFeed_cons, if_neg hne, found_tag hp]
      by_cases htag : dropLineFeed rest ≠ [] ∧ (dropLineFeed rest).all p = true
      · simp [hd, htag]
      · simp [hd]
    · rw [seq, found_both_of_nil (search_char_cons_of_not (by simp [hd])), dropLineFeed_cons]
      by_cases hend : rest = [] ∧ d = '\n'
      · rw [if_pos hend]
      · rw [if_neg hend]
        simp [hd]

theorem found_tail {separator : Option Char} (h : separator ∈ [none, some ':', some '@'])
    (past cs : List Char) :
    (tailRe separator).found ⟨past, cs⟩ = (matchTag separator (dropLineFeed cs)).toList := by
  simp only [List.mem_cons, List.not_mem_nil, or_false] at h
  rcases h with rfl | rfl | rfl
  · rw [tailRe, found_finish]
    by_cases hend : AtEnd cs
    · rw [if_pos hend, atEnd_iff.mp hend]
      rfl
    · rw [if_neg hend]
      cases hcs : dropLineFeed cs with
      | nil => exact (hend (atEnd_iff.mpr hcs)).elim
      | cons c cs => rfl
  · rw [tailRe, tagRe, found_char_tag (by decide) (by decide)]
    · cases hcs : dropLineFeed cs with
      | nil => rfl
      | cons c tag =>
        by_cases htag : c = ':' ∧ tag ≠ [] ∧ tag.all isNameChar = true
        · simp [matchTag, htag]
        · simp only [matchTag]
          rw [if_neg htag, if_neg]
          · rfl
          · simpa using htag
    · decide
  · rw [tailRe, shaRe, found_char_tag (by decide) (by decide)]
    cases hcs : dropLineFeed cs with
    | nil => rfl
    | cons c tag =>
      by_cases htag : c = '@' ∧ tag ≠ [] ∧ tag.all isShaChar = true
      · simp [matchTag, htag]
      · simp only [matchTag]
        rw [if_neg htag, if_neg]
        · rfl
        · simpa using htag

/-! ### The image -/

def ImageEnds (rest : List Char) : Prop :=
  rest.head? = some ':' ∨ rest.head? = some '@' ∨ AtEnd rest

instance (rest : List Char) : Decidable (ImageEnds rest) :=
  inferInstanceAs (Decidable (rest.head? = some ':' ∨ rest.head? = some '@' ∨ AtEnd rest))

theorem search_imageEnd (now : Cursor) :
    imageEnd.search now = if ImageEnds now.rest then [(now, [])] else [] := by
  have hends : imageEnd.search now =
      (Regex.ahead (.char (· = ':'))).search now ++
        ((Regex.ahead (.char (· = '@'))).search now ++ (Regex.ahead .finish).search now) := by
    rw [imageEnd, search, search]
  obtain ⟨past, rest⟩ := now
  rw [hends, search_ahead_char, search_ahead_char, search_ahead_finish]
  cases rest with
  | nil => rfl
  | cons c rest =>
    by_cases hcolon : c = ':'
    · subst hcolon
      simp [ImageEnds, AtEnd]
    · by_cases hat : c = '@'
      · subst hat
        simp [ImageEnds, AtEnd]
      · simp [ImageEnds, hcolon, hat]

theorem head_of_matchTag {s c : Char} {tag : List Char} {groups : Groups}
    (h : matchTag (some s) (c :: tag) = some groups) : c = s := by
  by_contra hne
  rw [matchTag, if_neg fun h => hne h.1] at h
  cases h

/-- A tag is found only where an image ends. -/
theorem imageEnds_of_matchTag {separator : Option Char} (h : separator ∈ [none, some ':', some '@'])
    {cs : List Char} {groups : Groups} (htag : matchTag separator (dropLineFeed cs) = some groups) :
    ImageEnds cs := by
  have hhead : ∀ c, dropLineFeed cs ≠ [] → (dropLineFeed cs).head? = some c →
      cs.head? = some c := by
    intro c hne hc
    cases cs with
    | nil => exact (hne rfl).elim
    | cons d ds =>
      rw [dropLineFeed_cons] at hne hc
      split at hne
      · exact (hne rfl).elim
      · rename_i hend
        rwa [if_neg hend] at hc
  cases hcs : dropLineFeed cs with
  | nil => exact Or.inr (Or.inr (atEnd_iff.mpr hcs))
  | cons c tag =>
    have hc := hhead c (by rw [hcs]; exact List.cons_ne_nil _ _) (by rw [hcs]; rfl)
    rw [hcs] at htag
    simp only [List.mem_cons, List.not_mem_nil, or_false] at h
    rcases h with rfl | rfl | rfl
    · cases htag
    · exact Or.inl (head_of_matchTag htag ▸ hc)
    · exact Or.inr (Or.inl (head_of_matchTag htag ▸ hc))

/-- The characters of an image, none of which ends it. -/
structure ImageClass (p : Char → Bool) : Prop where
  colon : p ':' = false
  at_sign : p '@' = false
  line_feed : p '\n' = false

theorem ImageClass.not_imageEnds {p : Char → Bool} (hp : ImageClass p) (c : Char)
    (rest : List Char) (hc : p c = true) : ¬ ImageEnds (c :: rest) := by
  rintro (h | h | h)
  · cases h
    rw [hp.colon] at hc
    cases hc
  · cases h
    rw [hp.at_sign] at hc
    cases hc
  · exact not_atEnd hp.line_feed hc rest h

theorem found_image {p : Char → Bool} (hp : ImageClass p) {separator : Option Char}
    (hseparator : separator ∈ [none, some ':', some '@']) {past : List Char}
    (hpast : past = [] ∨ past.head? = some '/') (cs : List Char) :
    (Regex.both (.group "image" (seq [.either (.behind (· = '/')) .start, .many p, imageEnd]))
        (tailRe separator)).found ⟨past, cs⟩ =
      (matchImage p separator (dropLineFeed cs)).toList := by
  have hbefore : (Regex.either (.behind (· = '/')) .start).search ⟨past, cs⟩ = [(⟨past, cs⟩, [])] := by
    rcases hpast with rfl | hpast
    · rfl
    · have hne : past ≠ [] := by
        rintro rfl
        cases hpast
      simp [search, hpast, hne]
  have hsearch : (Regex.group "image"
        (seq [.either (.behind (· = '/')) .start, .many p, imageEnd])).search ⟨past, cs⟩ =
      if cs.takeWhile p ≠ [] ∧ ImageEnds (cs.dropWhile p) then
        [(⟨(cs.takeWhile p).reverse ++ past, cs.dropWhile p⟩,
          [("image", String.ofList (cs.takeWhile p))])]
      else [] :=
    search_group_many ImageEnds hbefore search_imageEnd hp.not_imageEnds
  rw [matchImage, takeWhile_dropLineFeed hp.line_feed, dropWhile_dropLineFeed hp.line_feed]
  cases hword : cs.takeWhile p with
  | nil => rw [found_both_of_nil (by rw [hsearch, if_neg fun h => h.1 hword])]; rfl
  | cons c word =>
    have hne : cs.takeWhile p ≠ [] := by
      rw [hword]
      exact List.cons_ne_nil _ _
    by_cases hend : ImageEnds (cs.dropWhile p)
    · rw [found_both_of_single (by rw [hsearch, if_pos ⟨hne, hend⟩]), found_tail hseparator, hword]
      cases matchTag separator (dropLineFeed (cs.dropWhile p)) <;> rfl
    · rw [found_both_of_nil (by rw [hsearch, if_neg fun h => hend h.2])]
      cases htag : matchTag separator (dropLineFeed (cs.dropWhile p)) with
      | none => rfl
      | some groups => exact (hend (imageEnds_of_matchTag hseparator htag)).elim

/-! ### The parts before a slash -/

/-- What is left after the characters up to the first slash. -/
def AtSlash (tail : List Char) : Prop := tail = [] ∨ tail.head? = some '/'

theorem takeWhile_word {q : Char → Bool} (hq : q '/' = false) (word : List Char)
    {tail : List Char} (htail : AtSlash tail) :
    (word ++ tail).takeWhile q = word.takeWhile q := by
  induction word with
  | nil =>
    cases tail with
    | nil => rfl
    | cons c tail =>
      rcases htail with htail | htail
      · cases htail
      · cases htail
        exact List.takeWhile_cons_of_neg (by simp [hq])
  | cons c word ih => rw [List.cons_append, List.takeWhile_cons, List.takeWhile_cons, ih]

theorem dropWhile_word {q : Char → Bool} (hq : q '/' = false) (word : List Char)
    {tail : List Char} (htail : AtSlash tail) :
    (word ++ tail).dropWhile q = word.dropWhile q ++ tail := by
  induction word with
  | nil =>
    cases tail with
    | nil => rfl
    | cons c tail =>
      rcases htail with htail | htail
      · cases htail
      · cases htail
        exact List.dropWhile_cons_of_neg (by simp [hq])
  | cons c word ih =>
    rw [List.cons_append, List.dropWhile_cons, List.dropWhile_cons, ih]
    split <;> rfl

/-- The slash comes next where the whole word is of the class. -/
theorem slash_next_iff {q : Char → Bool} {word tail : List Char} (hword : '/' ∉ word)
    (htail : AtSlash tail) :
    (word.dropWhile q ++ tail).head? = some '/' ↔ word.all q = true ∧ tail ≠ [] := by
  rw [List.all_eq_true, ← List.dropWhile_eq_nil_iff]
  cases hdrop : word.dropWhile q with
  | nil =>
    rcases htail with rfl | htail
    · simp
    · have hne : tail ≠ [] := by
        rintro rfl
        cases htail
      simp [htail, hne]
  | cons c rest =>
    have hmem : c ∈ word := by
      have hc : c ∈ word.dropWhile q := hdrop ▸ List.mem_cons_self
      exact (List.dropWhile_suffix q).subset hc
    have hne : c ≠ '/' := fun hc => hword (hc ▸ hmem)
    simp [hne]

/-- A group that ends before a slash. -/
structure PartRe (r : Regex) (name : String) (accepts : List Char → Bool)
    (allowed : List Char → Prop) : Prop where
  search : ∀ past word tail, allowed past → '/' ∉ word → AtSlash tail →
    r.search ⟨past, word ++ tail⟩ =
      if accepts word = true ∧ tail ≠ [] then
        [(⟨word.reverse ++ past, tail⟩, [(name, String.ofList word)])]
      else []

theorem search_ahead_slash (now : Cursor) :
    (Regex.ahead slash).search now = if now.rest.head? = some '/' then [(now, [])] else [] := by
  rw [slash, search_ahead_char]
  cases now.rest with
  | nil => rfl
  | cons c rest => simp

theorem partRe_many {before : Regex} {name : String} {q : Char → Bool}
    {allowed : List Char → Prop} (hq : q '/' = false)
    (hbefore : ∀ past cs, allowed past → before.search ⟨past, cs⟩ = [(⟨past, cs⟩, [])]) :
    PartRe (.group name (seq [before, .many q, .ahead slash])) name
      (fun part => part ≠ [] ∧ part.all q) allowed where
  search := by
    intro past word tail hpast hword htail
    have hsearch : (Regex.group name (seq [before, .many q, .ahead slash])).search
          ⟨past, word ++ tail⟩ =
        if (word ++ tail).takeWhile q ≠ [] ∧ ((word ++ tail).dropWhile q).head? = some '/' then
          [(⟨((word ++ tail).takeWhile q).reverse ++ past, (word ++ tail).dropWhile q⟩,
            [(name, String.ofList ((word ++ tail).takeWhile q))])]
        else [] := by
      apply search_group_many (fun rest => rest.head? = some '/') (hbefore past _ hpast)
        search_ahead_slash
      intro c rest hc hslash
      cases hslash
      rw [hq] at hc
      cases hc
    rw [hsearch, takeWhile_word hq word htail, dropWhile_word hq word htail]
    simp only [slash_next_iff hword htail]
    by_cases hall : word.all q = true
    · have htake : word.takeWhile q = word :=
        List.takeWhile_eq_self_iff.mpr (List.all_eq_true.mp hall)
      have hdrop : word.dropWhile q = [] :=
        List.dropWhile_eq_nil_iff.mpr (List.all_eq_true.mp hall)
      rw [htake, hdrop, List.nil_append]
      simp [hall]
    · simp [hall]

/-- The part of a host name after its first dot. -/
theorem search_afterDot {word tail : List Char} (hword : '/' ∉ word) (htail : AtSlash tail)
    (past : List Char) :
    (seq [.many isShaChar, .ahead slash]).search ⟨past, word ++ tail⟩ =
      if (word ≠ [] ∧ word.all isShaChar = true) ∧ tail ≠ [] then
        [(⟨word.reverse ++ past, tail⟩, [])]
      else [] := by
  have hnext : ∀ now, (seq [.ahead slash]).search now =
      if now.rest.head? = some '/' then [(now, [])] else [] := by
    intro now
    rw [seq, seq]
    by_cases hnow : now.rest.head? = some '/'
    · rw [search_both_of_empty (by rw [search_ahead_slash, if_pos hnow]), Regex.search, if_pos hnow]
    · rw [search_both_of_nil (by rw [search_ahead_slash, if_neg hnow]), if_neg hnow]
  have hmany : (seq [.many isShaChar, .ahead slash]).search ⟨past, word ++ tail⟩ =
      if (word ++ tail).takeWhile isShaChar = [] then []
      else (seq [.ahead slash]).search
        ⟨((word ++ tail).takeWhile isShaChar).reverse ++ past,
          (word ++ tail).dropWhile isShaChar⟩ := by
    rw [seq]
    apply search_both_many
    intro past c rest hc
    rw [hnext, if_neg]
    intro hslash
    cases hslash
    exact absurd hc (by decide)
  have hslash : isShaChar '/' = false := by decide
  rw [hmany, hnext, takeWhile_word hslash word htail, dropWhile_word hslash word htail]
  simp only [slash_next_iff hword htail]
  by_cases hall : word.all isShaChar = true
  · have htake : word.takeWhile isShaChar = word :=
      List.takeWhile_eq_self_iff.mpr (List.all_eq_true.mp hall)
    have hdrop : word.dropWhile isShaChar = [] :=
      List.dropWhile_eq_nil_iff.mpr (List.all_eq_true.mp hall)
    rw [htake, hdrop, List.nil_append]
    by_cases hempty : word = []
    · simp [hempty]
    · simp [hempty, hall]
  · simp [hall]

theorem partRe_hostname : PartRe hostnameRe "hostname" isHostname (· = []) where
  search := by
    rintro past word tail rfl hword htail
    have hslash : isLabelChar '/' = false := by decide
    have hlabel : (seq [.start, .many isLabelChar, .char (· = '.'), .many isShaChar,
          .ahead slash]).search ⟨[], word ++ tail⟩ =
        if word.takeWhile isLabelChar = [] then []
        else (seq [.char (· = '.'), .many isShaChar, .ahead slash]).search
          ⟨(word.takeWhile isLabelChar).reverse, word.dropWhile isLabelChar ++ tail⟩ := by
      rw [seq, search_both_of_empty rfl, seq, search_both_many]
      · rw [takeWhile_word hslash word htail, dropWhile_word hslash word htail, List.append_nil]
      · intro past c rest hc
        apply search_both_of_nil
        apply search_char_cons_of_not
        apply decide_eq_false
        rintro rfl
        exact absurd hc (by decide)
    have hword' : word = word.takeWhile isLabelChar ++ word.dropWhile isLabelChar :=
      List.takeWhile_append_dropWhile.symm
    rw [hostnameRe, Regex.search, hlabel]
    have haccepts : isHostname word = match word.dropWhile isLabelChar with
      | [] => false
      | c :: rest =>
        decide (word.takeWhile isLabelChar ≠ [] ∧ c = '.' ∧ rest ≠ [] ∧ rest.all isShaChar = true) :=
      rfl
    by_cases hempty : word.takeWhile isLabelChar = []
    · rw [if_pos hempty, haccepts]
      cases word.dropWhile isLabelChar with
      | nil => simp
      | cons c rest => simp [hempty]
    · rw [if_neg hempty, haccepts]
      cases hdrop : word.dropWhile isLabelChar with
      | nil =>
        have hnone : (seq [.char (· = '.'), .many isShaChar, .ahead slash]).search
            ⟨(word.takeWhile isLabelChar).reverse, [] ++ tail⟩ = [] := by
          apply search_both_of_nil
          rcases htail with rfl | htail
          · rfl
          · cases tail with
            | nil => cases htail
            | cons c tail =>
              cases htail
              rfl
        rw [hnone]
        simp
      | cons c rest =>
        have hrest : '/' ∉ rest := by
          intro hmem
          apply hword
          rw [hword', hdrop]
          exact List.mem_append_right _ (List.mem_cons_of_mem _ hmem)
        by_cases hdot : c = '.'
        · subst hdot
          have hfound : (seq [.char (· = '.'), .many isShaChar, .ahead slash]).search
              ⟨(word.takeWhile isLabelChar).reverse, '.' :: rest ++ tail⟩ =
              (seq [.many isShaChar, .ahead slash]).search
                ⟨'.' :: (word.takeWhile isLabelChar).reverse, rest ++ tail⟩ := by
            have hchar : (Regex.char (· = '.')).search
                ⟨(word.takeWhile isLabelChar).reverse, '.' :: rest ++ tail⟩ =
                [(⟨'.' :: (word.takeWhile isLabelChar).reverse, rest ++ tail⟩, [])] :=
              search_char_cons (by decide)
            rw [seq, search_both_of_single hchar]
            simp
          rw [hfound, search_afterDot hrest htail]
          have hreverse : rest.reverse ++ '.' :: (word.takeWhile isLabelChar).reverse =
              word.reverse ++ [] := by
            rw [List.append_nil]
            conv_rhs => rw [hword', hdrop]
            simp
          by_cases hgood : (rest ≠ [] ∧ rest.all isShaChar = true) ∧ tail ≠ []
          · rw [if_pos hgood, if_pos ⟨decide_eq_true ⟨hempty, rfl, hgood.1⟩, hgood.2⟩, List.map_cons,
              List.map_nil, hreverse, between_append]
          · rw [if_neg hgood, if_neg, List.map_nil]
            rintro ⟨haccept, hne⟩
            exact hgood ⟨(of_decide_eq_true haccept).2.2, hne⟩
        · have hnone : (seq [.char (· = '.'), .many isShaChar, .ahead slash]).search
              ⟨(word.takeWhile isLabelChar).reverse, c :: rest ++ tail⟩ = [] := by
            apply search_both_of_nil
            exact search_char_cons_of_not (by simp [hdot])
          rw [hnone]
          simp [hdot]

theorem exists_atSlash (cs : List Char) :
    ∃ word tail, cs = word ++ tail ∧ '/' ∉ word ∧ AtSlash tail := by
  refine ⟨cs.takeWhile (· ≠ '/'), _, List.takeWhile_append_dropWhile.symm, ?_, ?_⟩
  · intro hmem
    have hne := List.mem_takeWhile_imp hmem
    simp at hne
  · cases hdrop : cs.dropWhile (· ≠ '/') with
    | nil => exact Or.inl rfl
    | cons c tail =>
      have hc : decide (c ≠ '/') = false := by
        have hhead := List.head?_dropWhile_not (fun c : Char => decide (c ≠ '/')) cs
        rw [hdrop] at hhead
        simpa using hhead
      exact Or.inr (by simpa using hc)

theorem all_ne_slash {word : List Char} (h : '/' ∉ word) :
    ∀ c ∈ word, decide (c ≠ '/') = true := by
  intro c hc
  apply decide_eq_true
  rintro rfl
  exact h hc

theorem matchPart_of_not_mem {accepts : List Char → Bool} {cs : List Char} (h : '/' ∉ cs) :
    matchPart accepts cs = none := by
  rw [matchPart, List.dropWhile_eq_nil_iff.mpr (all_ne_slash h)]

theorem takeWhile_slash {word : List Char} (h : '/' ∉ word) (rest : List Char) :
    (word ++ '/' :: rest).takeWhile (· ≠ '/') = word := by
  rw [takeWhile_word (by decide) word (Or.inr rfl),
    List.takeWhile_eq_self_iff.mpr (all_ne_slash h)]

theorem dropWhile_slash {word : List Char} (h : '/' ∉ word) (rest : List Char) :
    (word ++ '/' :: rest).dropWhile (· ≠ '/') = '/' :: rest := by
  rw [dropWhile_word (by decide) word (Or.inr rfl),
    List.dropWhile_eq_nil_iff.mpr (all_ne_slash h), List.nil_append]

theorem matchPart_append {accepts : List Char → Bool} {word : List Char} (h : '/' ∉ word)
    (rest : List Char) :
    matchPart accepts (word ++ '/' :: rest) =
      if accepts word then some (String.ofList word, rest) else none := by
  rw [matchPart, dropWhile_slash h, takeWhile_slash h]

theorem exists_of_matchPart {accepts : List Char → Bool} {cs : List Char}
    {part : String × List Char} (h : matchPart accepts cs = some part) :
    ∃ word, cs = word ++ '/' :: part.2 ∧ '/' ∉ word ∧ accepts word = true := by
  obtain ⟨word, tail, rfl, hword, htail⟩ := exists_atSlash cs
  rcases htail with rfl | htail
  · rw [List.append_nil, matchPart_of_not_mem hword] at h
    cases h
  · cases tail with
    | nil => cases htail
    | cons c rest =>
      obtain rfl : c = '/' := by simpa using htail
      rw [matchPart_append hword] at h
      split at h
      · rename_i haccepts
        cases h
        exact ⟨word, rfl, hword, haccepts⟩
      · cases h

theorem not_mem_dropLineFeed {c : Char} {cs : List Char} (h : c ∉ cs) : c ∉ dropLineFeed cs := by
  intro hmem
  unfold dropLineFeed at hmem
  split at hmem
  · rename_i rest hrest
    apply h
    rw [← List.mem_reverse, hrest]
    exact List.mem_cons_of_mem _ (List.mem_reverse.mp hmem)
  · exact h hmem

/-- What a matcher reads from the end of a part on. -/
theorem found_part {r s : Regex} {name : String} {accepts : List Char → Bool}
    {allowed : List Char → Prop} (hr : PartRe r name accepts allowed)
    {m : List Char → Option Groups}
    (hs : ∀ past cs, past.head? = some '/' → s.found ⟨past, cs⟩ = (m (dropLineFeed cs)).toList)
    {past : List Char} (hpast : allowed past) (cs : List Char) :
    (Regex.both r (.both slash s)).found ⟨past, cs⟩ =
      ((matchPart accepts (dropLineFeed cs)).bind fun part =>
        (m part.2).map ((name, part.1) :: ·)).toList := by
  obtain ⟨word, tail, rfl, hword, htail⟩ := exists_atSlash cs
  have hsearch := hr.search past word tail hpast hword htail
  rcases htail with rfl | htail
  · -- without a slash neither side finds anything
    rw [List.append_nil] at hsearch ⊢
    rw [found_both_of_nil (by rw [hsearch, if_neg fun h => h.2 rfl]),
      matchPart_of_not_mem (not_mem_dropLineFeed hword)]
    rfl
  · cases tail with
    | nil => cases htail
    | cons c rest =>
      obtain rfl : c = '/' := by simpa using htail
      have hfed : dropLineFeed (word ++ '/' :: rest) = word ++ '/' :: dropLineFeed rest := by
        rw [dropLineFeed_append (List.cons_ne_nil _ _), dropLineFeed_cons, if_neg]
        rintro ⟨-, h⟩
        cases h
      rw [hfed, matchPart_append hword]
      cases haccepts : accepts word with
      | false =>
        rw [found_both_of_nil (by rw [hsearch, haccepts]; simp)]
        rfl
      | true =>
        have hfirst : r.search ⟨past, word ++ '/' :: rest⟩ =
            [(⟨word.reverse ++ past, '/' :: rest⟩, [(name, String.ofList word)])] := by
          rw [hsearch, if_pos ⟨haccepts, List.cons_ne_nil _ _⟩]
        have hslash : slash.search ⟨word.reverse ++ past, '/' :: rest⟩ =
            [(⟨'/' :: (word.reverse ++ past), rest⟩, [])] := search_char_cons (by decide)
        rw [found_both_of_single hfirst, found_both_of_single hslash, hs _ rest rfl]
        cases hm : m (dropLineFeed rest) with
        | none => simp [hm]
        | some groups => simp [hm]

/-! ### The kinds of paths -/

inductive Kind where
  | image
  | userImage
  | hostImage
  deriving DecidableEq

abbrev Shape := Kind × Option Char

/-- The shapes of the expressions, in their order. -/
def shapes : List Shape := [
  (.image, none), (.userImage, none), (.image, some ':'), (.userImage, some ':'),
  (.image, some '@'), (.userImage, some '@'), (.hostImage, none), (.hostImage, some ':'),
  (.hostImage, some '@')]

def shapeRe : Shape → Regex
  | (.image, separator) => .both .start (.both dockerImageRe (tailRe separator))
  | (.userImage, separator) =>
    .both .start (.both dockerUsernameRe (.both slash (.both dockerImageRe (tailRe separator))))
  | (.hostImage, separator) =>
    .both .start (.both hostnameRe (.both slash
      (.both usernameRe (.both slash (.both imageRe (tailRe separator))))))

def matcher : Shape → List Char → Option Groups
  | (.image, separator) => matchDockerImage separator
  | (.userImage, separator) => matchDockerUserImage separator
  | (.hostImage, separator) => matchHostImage separator

/-- The defaults that a match is filled up by. -/
def fillOf (shape : Shape) : Groups :=
  (if shape.1 = .hostImage then [] else [("hostname", "registry-1.docker.io")]) ++
    (if shape.1 = .image then [("username", "library")] else []) ++
    (if shape.2 = none then [("tag", "latest")] else [])

theorem patterns_eq : patterns = shapes.map fun shape => (shapeRe shape, fillOf shape) := rfl

theorem regexes_eq : regexes = shapes.map fun shape => (matcher shape, fillOf shape) := rfl

theorem separator_of_mem {shape : Shape} (h : shape ∈ shapes) :
    shape.2 ∈ [none, some ':', some '@'] := by
  revert shape
  decide

theorem imageClass_name : ImageClass isNameChar := ⟨by decide, by decide, by decide⟩

theorem imageClass_path : ImageClass isPathChar := ⟨by decide, by decide, by decide⟩

theorem matchDockerUserImage_eq (separator : Option Char) (cs : List Char) :
    matchDockerUserImage separator cs =
      (matchPart (fun part => part ≠ [] ∧ part.all (·.isAlphanum)) cs).bind fun part =>
        (matchImage isNameChar separator part.2).map (("username", part.1) :: ·) := by
  rw [matchDockerUserImage]
  cases matchPart (fun part => part ≠ [] ∧ part.all (·.isAlphanum)) cs with
  | none => rfl
  | some part =>
    show (matchImage isNameChar separator part.2).bind
      (fun groups => some (("username", part.1) :: groups)) = Option.map _ _
    cases matchImage isNameChar separator part.2 <;> rfl

/-- What `matchHostImage` reads after the host name. -/
def matchProjectImage (separator : Option Char) (cs : List Char) : Option Groups :=
  (matchPart (fun part => part ≠ [] ∧ part.all isNameChar) cs).bind fun part =>
    (matchImage isPathChar separator part.2).map (("username", part.1) :: ·)

theorem matchHostImage_eq (separator : Option Char) (cs : List Char) :
    matchHostImage separator cs =
      (matchPart isHostname cs).bind fun part =>
        (matchProjectImage separator part.2).map (("hostname", part.1) :: ·) := by
  rw [matchHostImage]
  cases matchPart isHostname cs with
  | none => rfl
  | some host =>
    rw [Option.bind_some, matchProjectImage]
    show (matchPart (fun part => part ≠ [] ∧ part.all isNameChar) host.2).bind (fun user =>
      (matchImage isPathChar separator user.2).bind fun groups =>
        some (("hostname", host.1) :: ("username", user.1) :: groups)) = _
    cases matchPart (fun part => part ≠ [] ∧ part.all isNameChar) host.2 with
    | none => rfl
    | some user =>
      rw [Option.bind_some, Option.bind_some]
      cases matchImage isPathChar separator user.2 <;> rfl

/-- The matchers find what the expressions find. -/
theorem matchGroups_shapeRe {shape : Shape} (h : shape ∈ shapes) (cs : List Char) :
    (shapeRe shape).matchGroups cs = matcher shape (dropLineFeed cs) := by
  have hseparator := separator_of_mem h
  obtain ⟨kind, separator⟩ := shape
  have hfound : (shapeRe (kind, separator)).found ⟨[], cs⟩ =
      (matcher (kind, separator) (dropLineFeed cs)).toList := by
    have hstart : Regex.start.search ⟨[], cs⟩ = [(⟨[], cs⟩, [])] := rfl
    cases kind with
    | image =>
      rw [shapeRe, found_both_of_empty hstart]
      exact found_image imageClass_name hseparator (Or.inl rfl) cs
    | userImage =>
      have himage : ∀ past cs, past.head? = some '/' →
          (Regex.both dockerImageRe (tailRe separator)).found ⟨past, cs⟩ =
            (matchImage isNameChar separator (dropLineFeed cs)).toList :=
        fun past cs hpast => found_image imageClass_name hseparator (Or.inr hpast) cs
      have huser : PartRe dockerUsernameRe "username"
          (fun part => part ≠ [] ∧ part.all (·.isAlphanum)) (· = []) :=
        partRe_many (by decide) (by rintro _ _ rfl; rfl)
      rw [shapeRe, found_both_of_empty hstart, found_part huser himage rfl, matcher,
        matchDockerUserImage_eq]
    | hostImage =>
      have himage : ∀ past cs, past.head? = some '/' →
          (Regex.both imageRe (tailRe separator)).found ⟨past, cs⟩ =
            (matchImage isPathChar separator (dropLineFeed cs)).toList :=
        fun past cs hpast => found_image imageClass_path hseparator (Or.inr hpast) cs
      have huser : PartRe usernameRe "username"
          (fun part => part ≠ [] ∧ part.all isNameChar) (fun past => past.head? = some '/') := by
        apply partRe_many (by decide)
        intro past cs hpast
        simp [Regex.search, hpast]
      have hproject : ∀ past cs, past.head? = some '/' →
          (Regex.both usernameRe (.both slash (.both imageRe (tailRe separator)))).found
            ⟨past, cs⟩ = (matchProjectImage separator (dropLineFeed cs)).toList :=
        fun past cs hpast => found_part huser himage hpast cs
      rw [shapeRe, found_both_of_empty hstart, found_part partRe_hostname hproject rfl, matcher,
        matchHostImage_eq]
  rw [matchGroups_eq, hfound]
  cases matcher (kind, separator) (dropLineFeed cs) <;> rfl

/-- The shape that a path can have: its kind is known from the first slash and the dots before it,
its separator from what follows the image. -/
def shapeOf (cs : List Char) : Shape :=
  match cs.dropWhile (· ≠ '/') with
  | [] => (.image, (cs.dropWhile isNameChar).head?)
  | _ :: rest =>
    if '.' ∈ cs.takeWhile (· ≠ '/') then
      (.hostImage, (((rest.dropWhile (· ≠ '/')).drop 1).dropWhile isPathChar).head?)
    else (.userImage, (rest.dropWhile isNameChar).head?)

theorem shapeOf_of_not_mem {cs : List Char} (h : '/' ∉ cs) :
    shapeOf cs = (.image, (cs.dropWhile isNameChar).head?) := by
  rw [shapeOf, List.dropWhile_eq_nil_iff.mpr (all_ne_slash h)]

theorem shapeOf_append {word : List Char} (h : '/' ∉ word) (rest : List Char) :
    shapeOf (word ++ '/' :: rest) =
      if '.' ∈ word then
        (.hostImage, (((rest.dropWhile (· ≠ '/')).drop 1).dropWhile isPathChar).head?)
      else (.userImage, (rest.dropWhile isNameChar).head?) := by
  rw [shapeOf, dropWhile_slash h, takeWhile_slash h]

theorem separator_of_matchTag {separator : Option Char} {cs : List Char} {groups : Groups}
    (h : matchTag separator cs = some groups) : separator = cs.head? := by
  cases separator with
  | none =>
    cases cs with
    | nil => rfl
    | cons c cs => cases h
  | some s =>
    cases cs with
    | nil => cases h
    | cons c tag => rw [head_of_matchTag h, List.head?_cons]

theorem matchTag_of_matchImage {p : Char → Bool} {separator : Option Char} {cs : List Char}
    {groups : Groups} (h : matchImage p separator cs = some groups) :
    ∃ tag, matchTag separator (cs.dropWhile p) = some tag := by
  rw [matchImage] at h
  split at h
  · cases h
  · obtain ⟨tag, htag, -⟩ := Option.map_eq_some_iff.mp h
    exact ⟨tag, htag⟩

/-- A tag has no slash in it. -/
theorem not_mem_of_matchTag {separator : Option Char}
    (hseparator : separator ∈ [none, some ':', some '@']) {cs : List Char} {groups : Groups}
    (h : matchTag separator cs = some groups) : '/' ∉ cs := by
  cases separator with
  | none =>
    cases cs with
    | nil => exact List.not_mem_nil
    | cons c cs => cases h
  | some s =>
    cases cs with
    | nil => cases h
    | cons c tag =>
      obtain rfl := head_of_matchTag h
      have hc : c ≠ '/' := by
        rintro rfl
        revert hseparator
        decide
      have htag : tag.all (if c = '@' then isShaChar else isNameChar) = true := by
        by_contra hne
        rw [matchTag, if_neg fun htag => hne htag.2.2] at h
        cases h
      intro hmem
      rcases List.mem_cons.mp hmem with heq | hmem
      · exact hc heq.symm
      · have hslash := List.all_eq_true.mp htag '/' hmem
        revert hslash
        split <;> decide

theorem not_mem_of_matchDockerImage {separator : Option Char}
    (hseparator : separator ∈ [none, some ':', some '@']) {cs : List Char} {groups : Groups}
    (h : matchDockerImage separator cs = some groups) : '/' ∉ cs := by
  obtain ⟨tag, htag⟩ := matchTag_of_matchImage h
  intro hmem
  rw [← List.takeWhile_append_dropWhile (p := isNameChar) (l := cs)] at hmem
  rcases List.mem_append.mp hmem with hmem | hmem
  · exact absurd (List.mem_takeWhile_imp hmem) (by decide)
  · exact not_mem_of_matchTag hseparator htag hmem

theorem dot_mem_of_isHostname {word : List Char} (h : isHostname word = true) : '.' ∈ word := by
  have hword : word = word.takeWhile isLabelChar ++ word.dropWhile isLabelChar :=
    List.takeWhile_append_dropWhile.symm
  have haccepts : isHostname word = match word.dropWhile isLabelChar with
    | [] => false
    | c :: rest =>
      decide (word.takeWhile isLabelChar ≠ [] ∧ c = '.' ∧ rest ≠ [] ∧ rest.all isShaChar = true) :=
    rfl
  rw [haccepts] at h
  cases hdrop : word.dropWhile isLabelChar with
  | nil =>
    rw [hdrop] at h
    cases h
  | cons c rest =>
    rw [hdrop] at h
    obtain rfl := (of_decide_eq_true h).2.1
    rw [hword, hdrop]
    exact List.mem_append_right _ List.mem_cons_self

/-- A path has at most one shape. -/
theorem eq_shapeOf {shape : Shape} (hshape : shape ∈ shapes) {cs : List Char} {groups : Groups}
    (h : matcher shape cs = some groups) : shape = shapeOf cs := by
  have hseparator := separator_of_mem hshape
  obtain ⟨kind, separator⟩ := shape
  cases kind with
  | image =>
    obtain ⟨tag, htag⟩ := matchTag_of_matchImage h
    rw [shapeOf_of_not_mem (not_mem_of_matchDockerImage hseparator h), separator_of_matchTag htag]
  | userImage =>
    rw [matcher, matchDockerUserImage_eq] at h
    obtain ⟨part, hpart, h⟩ := Option.bind_eq_some_iff.mp h
    obtain ⟨groups', himage, -⟩ := Option.map_eq_some_iff.mp h
    obtain ⟨word, rfl, hword, haccepts⟩ := exists_of_matchPart hpart
    obtain ⟨tag, htag⟩ := matchTag_of_matchImage himage
    have hdot : '.' ∉ word := by
      intro hmem
      have hall := (of_decide_eq_true haccepts).2
      exact absurd (List.all_eq_true.mp hall '.' hmem) (by decide)
    rw [shapeOf_append hword, if_neg hdot, separator_of_matchTag htag]
  | hostImage =>
    rw [matcher, matchHostImage_eq] at h
    obtain ⟨part, hpart, h⟩ := Option.bind_eq_some_iff.mp h
    obtain ⟨groups', hproject, -⟩ := Option.map_eq_some_iff.mp h
    obtain ⟨word, rfl, hword, haccepts⟩ := exists_of_matchPart hpart
    obtain ⟨part', hpart', hproject⟩ := Option.bind_eq_some_iff.mp hproject
    obtain ⟨groups'', himage, -⟩ := Option.map_eq_some_iff.mp hproject
    obtain ⟨word', hrest, hword', -⟩ := exists_of_matchPart hpart'
    obtain ⟨tag, htag⟩ := matchTag_of_matchImage himage
    rw [shapeOf_append hword, if_pos (dot_mem_of_isHostname haccepts), hrest,
      dropWhile_slash hword', List.drop_one, List.tail_cons, separator_of_matchTag htag]

/-! ### One interpretation at most -/

theorem length_filter_le_one {α : Type} {l : List α} {p : α → Bool} {a : α} (hl : l.Nodup)
    (h : ∀ x ∈ l, p x = true → x = a) : (l.filter p).length ≤ 1 := by
  have hsubset : l.filter p ⊆ [a] := by
    intro x hx
    obtain ⟨hmem, hp⟩ := List.mem_filter.mp hx
    exact List.mem_singleton.mpr (h x hmem hp)
  exact List.Nodup.length_le_of_subset (hl.filter p) hsubset

/-- At most one of the expressions matches. -/
theorem matching_le_one (cs : List Char) :
    (patterns.filter fun regex => (regex.1.matchGroups cs).isSome).length ≤ 1 := by
  rw [patterns_eq, List.filter_map, List.length_map]
  apply length_filter_le_one (by decide)
  intro shape hshape hsome
  obtain ⟨groups, hgroups⟩ := Option.isSome_iff_exists.mp hsome
  rw [matchGroups_shapeRe hshape] at hgroups
  exact eq_shapeOf hshape hgroups

theorem interpretations_eq (path : String) :
    interpretations path =
      regexes.filterMap fun regex =>
        (regex.1 (dropLineFeed path.toList)).map (fillGroups regex.2) := by
  rw [interpretations, patterns_eq, regexes_eq, List.filterMap_map, List.filterMap_map]
  apply List.filterMap_congr
  intro shape hshape
  show Option.map _ ((shapeRe shape).matchGroups path.toList) = Option.map _ (matcher shape _)
  rw [matchGroups_shapeRe hshape]

theorem interpretations_le_one (path : String) : (interpretations path).length ≤ 1 := by
  have hcount : (interpretations path).length =
      (patterns.filter fun regex => (regex.1.matchGroups path.toList).isSome).length := by
    rw [interpretations, List.length_filterMap_eq_countP, List.countP_eq_length_filter]
    congr 2
    funext regex
    exact Option.isSome_map
  rw [hcount]
  exact matching_le_one path.toList

theorem fromPath_eq (path : String) :
    fromPath path =
      match interpretations path with
      | [groups] => .ok ⟨group "hostname" groups, group "image" groups, group "tag" groups⟩
      | [] => .error (.generic (imageParseError ("Cannot parse the image " ++ path)))
      | found => .error (.generic (imageParseError
          ("Cannot parse the image " ++ path ++ ", too many interpretations " ++
            groupsText found))) := by
  rw [interpretations_eq]
  rfl

/-- The error about too many interpretations is never raised. -/
theorem fromPath_ok_or_unparsed (path : String) :
    (∃ image, fromPath path = .ok image) ∨
      fromPath path = .error (.generic (imageParseError ("Cannot parse the image " ++ path))) := by
  rw [fromPath_eq]
  have hone := interpretations_le_one path
  cases hfound : interpretations path with
  | nil => exact Or.inr rfl
  | cons groups others =>
    rw [hfound, List.length_cons] at hone
    obtain rfl : others = [] := List.eq_nil_of_length_eq_zero (by omega)
    exact Or.inl ⟨_, rfl⟩

/-! ### Images of a registry -/

/-- A host name with a dot in it, with or without a port. -/
def IsRegistryHostname (hostname : String) : Prop :=
  ∃ label rest, hostname.toList = label ++ '.' :: rest ∧
    label ≠ [] ∧ label.all isLabelChar = true ∧ rest ≠ [] ∧ rest.all isShaChar = true

/-- A first segment and, after a slash, the others. -/
def IsRepositoryPath (path : String) : Prop :=
  ∃ first others, path.toList = first ++ '/' :: others ∧
    first ≠ [] ∧ first.all isNameChar = true ∧ others ≠ [] ∧ others.all isPathChar = true

def IsTag (tag : String) : Prop := tag.toList ≠ [] ∧ tag.toList.all isNameChar = true

def IsDigest (digest : String) : Prop := digest.toList ≠ [] ∧ digest.toList.all isShaChar = true

theorem not_mem_of_all {p : Char → Bool} {cs : List Char} {c : Char} (h : cs.all p = true)
    (hc : p c = false) : c ∉ cs := by
  intro hmem
  rw [List.all_eq_true.mp h c hmem] at hc
  cases hc

theorem dropLineFeed_of_not_mem {cs : List Char} (h : '\n' ∉ cs) : dropLineFeed cs = cs := by
  unfold dropLineFeed
  split
  · rename_i rest hrest
    have hmem : '\n' ∈ cs.reverse := hrest ▸ List.mem_cons_self
    exact (h (List.mem_reverse.mp hmem)).elim
  · rfl

theorem isHostname_of_registry {label rest : List Char} (hlabel : label ≠ [])
    (hlabelChars : label.all isLabelChar = true) (hrest : rest ≠ [])
    (hrestChars : rest.all isShaChar = true) : isHostname (label ++ '.' :: rest) = true := by
  have hall := List.all_eq_true.mp hlabelChars
  have hdot : ¬ isLabelChar '.' = true := by decide
  have htake : (label ++ '.' :: rest).takeWhile isLabelChar = label := by
    rw [List.takeWhile_append_of_pos hall, List.takeWhile_cons_of_neg hdot, List.append_nil]
  have hdrop : (label ++ '.' :: rest).dropWhile isLabelChar = '.' :: rest := by
    rw [List.dropWhile_append_of_pos hall, List.dropWhile_cons_of_neg hdot]
  have haccepts : isHostname (label ++ '.' :: rest) =
      match (label ++ '.' :: rest).dropWhile isLabelChar with
      | [] => false
      | c :: rest' =>
        decide ((label ++ '.' :: rest).takeWhile isLabelChar ≠ [] ∧ c = '.' ∧ rest' ≠ [] ∧
          rest'.all isShaChar = true) := rfl
  rw [haccepts, hdrop, htake]
  exact decide_eq_true ⟨hlabel, rfl, hrest, hrestChars⟩

theorem slash_not_mem_hostname {label rest : List Char} (hlabel : label.all isLabelChar = true)
    (hrest : rest.all isShaChar = true) : '/' ∉ label ++ '.' :: rest := by
  have hlabel' : '/' ∉ label := not_mem_of_all hlabel (by decide)
  have hrest' : '/' ∉ rest := not_mem_of_all hrest (by decide)
  simp [hlabel', hrest']

/-- What follows the image. -/
theorem matchImage_append {image tail : List Char} {separator : Option Char} {groups : Groups}
    (himage : image ≠ []) (hchars : image.all isPathChar = true)
    (htail : tail.head?.all (fun c => !isPathChar c) = true)
    (htag : matchTag separator tail = some groups) :
    matchImage isPathChar separator (image ++ tail) =
      some (("image", String.ofList image) :: groups) := by
  have hall := List.all_eq_true.mp hchars
  have hstop : tail.takeWhile isPathChar = [] ∧ tail.dropWhile isPathChar = tail := by
    cases tail with
    | nil => exact ⟨rfl, rfl⟩
    | cons c tail =>
      have hc : ¬ isPathChar c = true := by simpa using htail
      exact ⟨List.takeWhile_cons_of_neg hc, List.dropWhile_cons_of_neg hc⟩
  rw [matchImage, List.takeWhile_append_of_pos hall, List.dropWhile_append_of_pos hall, hstop.1,
    hstop.2, List.append_nil, htag]
  cases image with
  | nil => exact (himage rfl).elim
  | cons c image => rfl

/-- The matcher for a host reads the parts that a path is made of. -/
theorem matchHostImage_append {hostname first others tail : List Char} {separator : Option Char}
    {groups : Groups} (hhost : isHostname hostname = true) (hslash : '/' ∉ hostname)
    (hfirst : first ≠ []) (hfirstChars : first.all isNameChar = true) (hothers : others ≠ [])
    (hothersChars : others.all isPathChar = true)
    (htail : tail.head?.all (fun c => !isPathChar c) = true)
    (htag : matchTag separator tail = some groups) :
    matchHostImage separator (hostname ++ '/' :: (first ++ '/' :: (others ++ tail))) =
      some (("hostname", String.ofList hostname) :: ("username", String.ofList first) ::
        ("image", String.ofList others) :: groups) := by
  have hfirstSlash : '/' ∉ first := not_mem_of_all hfirstChars (by decide)
  rw [matchHostImage_eq, matchPart_append hslash, if_pos hhost, Option.bind_some,
    matchProjectImage, matchPart_append hfirstSlash,
    if_pos (decide_eq_true ⟨hfirst, hfirstChars⟩), Option.bind_some,
    matchImage_append hothers hothersChars htail htag]
  rfl

/-- The interpretation of a path that one of the matchers reads. -/
theorem interpretations_of_matcher {path : String} {shape : Shape} (hshape : shape ∈ shapes)
    {groups : Groups} (h : matcher shape (dropLineFeed path.toList) = some groups) :
    interpretations path = [fillGroups (fillOf shape) groups] := by
  have hmem : fillGroups (fillOf shape) groups ∈ interpretations path := by
    rw [interpretations_eq, regexes_eq, List.filterMap_map, List.mem_filterMap]
    exact ⟨shape, hshape, congrArg (Option.map (fillGroups (fillOf shape))) h⟩
  have hone := interpretations_le_one path
  cases hfound : interpretations path with
  | nil =>
    rw [hfound] at hmem
    cases hmem
  | cons found others =>
    rw [hfound, List.length_cons] at hone
    obtain rfl : others = [] := List.eq_nil_of_length_eq_zero (by omega)
    rw [hfound] at hmem
    rw [List.mem_singleton.mp hmem]

theorem fromPath_of_tail {hostname path tag text : String} {s : Char}
    (hshape : (Kind.hostImage, some s) ∈ shapes) (hhostname : IsRegistryHostname hostname)
    (hpath : IsRepositoryPath path) (htag : tag.toList ≠ [])
    (hchars : tag.toList.all (if s = '@' then isShaChar else isNameChar) = true)
    (htext : text.toList = hostname.toList ++ '/' :: (path.toList ++ s :: tag.toList)) :
    fromPath text = .ok ⟨hostname, path, tag⟩ := by
  obtain ⟨label, rest, hhost, hlabel, hlabelChars, hrest, hrestChars⟩ := hhostname
  obtain ⟨first, others, hparts, hfirst, hfirstChars, hothers, hothersChars⟩ := hpath
  have hs : isPathChar s = false ∧ s ≠ '\n' := by
    simp only [shapes, List.mem_cons, List.not_mem_nil] at hshape
    have hcases : s = ':' ∨ s = '@' := by simpa using hshape
    rcases hcases with rfl | rfl <;> decide
  have hline : '\n' ∉ text.toList := by
    have hlabel' : '\n' ∉ label := not_mem_of_all hlabelChars (by decide)
    have hrest' : '\n' ∉ rest := not_mem_of_all hrestChars (by decide)
    have hfirst' : '\n' ∉ first := not_mem_of_all hfirstChars (by decide)
    have hothers' : '\n' ∉ others := not_mem_of_all hothersChars (by decide)
    have htag' : '\n' ∉ tag.toList := not_mem_of_all hchars (by split <;> decide)
    rw [htext, hhost, hparts]
    simp [hlabel', hrest', hfirst', hothers', htag', hs.2.symm]
  have hread : matcher (.hostImage, some s) (dropLineFeed text.toList) =
      some [("hostname", hostname), ("username", String.ofList first),
        ("image", String.ofList others), ("tag", tag)] := by
    have hmatchTag : matchTag (some s) (s :: tag.toList) = some [("tag", tag)] := by
      rw [matchTag, if_pos ⟨rfl, htag, hchars⟩, String.ofList_toList]
    have htail : (s :: tag.toList).head?.all (fun c => !isPathChar c) = true := by simp [hs.1]
    rw [dropLineFeed_of_not_mem hline, htext, hparts, List.append_assoc, List.cons_append, matcher,
      hhost, matchHostImage_append
        (isHostname_of_registry hlabel hlabelChars hrest hrestChars)
        (slash_not_mem_hostname hlabelChars hrestChars) hfirst hfirstChars hothers hothersChars
        htail hmatchTag, ← hhost, String.ofList_toList]
  have hname : String.ofList first ++ "/" ++ String.ofList others = path := by
    apply String.toList_injective
    simp [String.toList_append, hparts]
  rw [fromPath_eq, interpretations_of_matcher hshape hread]
  show Except.ok _ = Except.ok _
  rw [← hname]
  rfl

/-- The path of an image of a registry has one interpretation, the image that it was made of; the
image that is built for a commit is parsed back into itself. -/
theorem fromPath_unambiguous :
    (∀ path : String,
      (patterns.filter fun regex => (regex.1.matchGroups path.toList).isSome).length ≤ 1 ∧
      ((∃ image, fromPath path = .ok image) ∨
        fromPath path = .error (.generic (imageParseError ("Cannot parse the image " ++ path))))) ∧
    (∀ hostname path, IsRegistryHostname hostname → IsRepositoryPath path →
      (∀ tag, IsTag tag →
        fromPath (hostname ++ "/" ++ path ++ ":" ++ tag) = .ok ⟨hostname, path, tag⟩) ∧
      ∀ digest, IsDigest digest →
        fromPath (hostname ++ "/" ++ path ++ "@" ++ digest) = .ok ⟨hostname, path, digest⟩) ∧
    ∀ (config : Config) library gitToken (project : ImageProject),
      IsRegistryHostname config.gitRegistry →
      IsRepositoryPath (PyText.lower project.pathWithNamespace) →
      IsTag (String.ofList (project.commitSha.toList.take 7)) →
      (projectImage config library gitToken project).Returns fun chosen =>
        fromPath chosen.image = .ok chosen.parsedImage := by
  have htagged : ∀ hostname path tag, IsRegistryHostname hostname → IsRepositoryPath path →
      IsTag tag → fromPath (hostname ++ "/" ++ path ++ ":" ++ tag) = .ok ⟨hostname, path, tag⟩ := by
    intro hostname path tag hhostname hpath htag
    apply fromPath_of_tail (s := ':') (by decide) hhostname hpath htag.1 htag.2
    simp [String.toList_append]
  refine ⟨fun path => ⟨matching_le_one path.toList, fromPath_ok_or_unparsed path⟩, ?_, ?_⟩
  · intro hostname path hhostname hpath
    refine ⟨fun tag htag => htagged hostname path tag hhostname hpath htag, ?_⟩
    intro digest hdigest
    apply fromPath_of_tail (s := '@') (by decide) hhostname hpath hdigest.1 hdigest.2
    simp [String.toList_append]
  · intro config library gitToken project hhostname hpath htag
    apply Prog.Returns.bind (Prog.returns_true _)
    intro found _
    cases found with
    | false => trivial
    | true => exact htagged _ _ _ hhostname hpath htag

/-- A host with a port, and an image below a project. -/
theorem portImage_fromPath :
    fromPath "registry.renkulab.io:5000/alice/project/image:1a2b3c4" =
      .ok ⟨"registry.renkulab.io:5000", "alice/project/image", "1a2b3c4"⟩ := by
  have hhostname : IsRegistryHostname "registry.renkulab.io:5000" :=
    ⟨"registry".toList, "renkulab.io:5000".toList, by decide, by decide, by decide, by decide,
      by decide⟩
  have hpath : IsRepositoryPath "alice/project/image" :=
    ⟨"alice".toList, "project/image".toList, by decide, by decide, by decide, by decide, by decide⟩
  exact (fromPath_unambiguous.2.1 _ _ hhostname hpath).1 "1a2b3c4" ⟨by decide, by decide⟩

end RenkuNotebooks.Notebooks.Image
