import ScreenSynthesis.Text.Ranges

/-!
# White space

The property White_Space, and the removal of it from both ends of a text.
-/

namespace ScreenSynthesis.Text

/-- The code points with the property White_Space. -/
def whiteSpaceRanges : Ranges :=
  [(0x9, 0xD), (0x20, 0x20), (0x85, 0x85), (0xA0, 0xA0), (0x1680, 0x1680), (0x2000, 0x200A),
   (0x2028, 0x2029), (0x202F, 0x202F), (0x205F, 0x205F), (0x3000, 0x3000)]

/-- Whether `c` is white space. -/
def isWhiteSpace (c : Char) : Bool := inRanges whiteSpaceRanges c.toNat

/-- The characters without the white space that starts them and the white space that ends them. -/
def trimChars (cs : List Char) : List Char :=
  ((cs.dropWhile isWhiteSpace).reverse.dropWhile isWhiteSpace).reverse

/-- The text without white space at either end. -/
def trim (s : String) : String := String.ofList (trimChars s.toList)

/-- Whether neither the first nor the last character is white space. -/
def Trimmed (cs : List Char) : Prop :=
  (∀ c ∈ cs.head?, isWhiteSpace c = false) ∧ ∀ c ∈ cs.getLast?, isWhiteSpace c = false

/-- Where no white space starts the text, none is removed. -/
theorem dropWhile_isWhiteSpace {cs : List Char} (h : ∀ c ∈ cs.head?, isWhiteSpace c = false) :
    cs.dropWhile isWhiteSpace = cs := by
  cases cs with
  | nil => rfl
  | cons c cs => rw [List.dropWhile_cons, h c rfl, if_neg (by decide)]

/-- After the removal no white space starts the text. -/
theorem head?_dropWhile_isWhiteSpace {cs : List Char} {c : Char}
    (h : c ∈ (cs.dropWhile isWhiteSpace).head?) : isWhiteSpace c = false := by
  have hnot := List.head?_dropWhile_not isWhiteSpace cs
  rw [Option.mem_def] at h
  rwa [h] at hnot

/-- The removal leaves the last character as it is, if any is left. -/
theorem getLast?_of_mem_getLast?_dropWhile {cs : List Char} {c : Char}
    (h : c ∈ (cs.dropWhile isWhiteSpace).getLast?) : cs.getLast? = some c := by
  obtain ⟨removed, hcs⟩ := List.dropWhile_suffix (l := cs) isWhiteSpace
  rw [← hcs, List.getLast?_append, Option.mem_def.1 h, Option.some_or]

/-- Trimmed text has no white space at either end. -/
theorem trimmed_trimChars (cs : List Char) : Trimmed (trimChars cs) := by
  refine ⟨fun c hc => ?_, fun c hc => ?_⟩
  · -- the second removal works on the other end, so that the first character stays
    rw [trimChars, List.head?_reverse] at hc
    have hfirst := getLast?_of_mem_getLast?_dropWhile hc
    rw [List.getLast?_reverse] at hfirst
    exact head?_dropWhile_isWhiteSpace hfirst
  · rw [trimChars, List.getLast?_reverse] at hc
    exact head?_dropWhile_isWhiteSpace hc

/-- Text without white space at either end is left as it is. -/
theorem trimChars_of_trimmed {cs : List Char} (h : Trimmed cs) : trimChars cs = cs := by
  have hlast : ∀ c ∈ cs.reverse.head?, isWhiteSpace c = false := by
    rw [List.head?_reverse]
    exact h.2
  rw [trimChars, dropWhile_isWhiteSpace h.1, dropWhile_isWhiteSpace hlast, List.reverse_reverse]

/-- Whatever stands between two trimmed texts, the ends of the whole are theirs. -/
theorem Trimmed.append {cs ds : List Char} (hcs : Trimmed cs) (hds : Trimmed ds) (hcs' : cs ≠ [])
    (hds' : ds ≠ []) (middle : List Char) : Trimmed (cs ++ middle ++ ds) := by
  obtain ⟨first, hfirst⟩ := Option.ne_none_iff_exists'.1 (mt List.head?_eq_none_iff.1 hcs')
  obtain ⟨last, hlast⟩ := Option.ne_none_iff_exists'.1 (mt List.getLast?_eq_none_iff.1 hds')
  refine ⟨fun c hc => hcs.1 c ?_, fun c hc => hds.2 c ?_⟩
  · rw [List.append_assoc, List.head?_append, hfirst] at hc
    exact hfirst.trans hc
  · rw [List.getLast?_append, hlast] at hc
    exact hlast.trans hc

/-- A trimmed text, as a list of characters. -/
theorem trimmed_trim (s : String) : Trimmed (trim s).toList := by
  rw [trim, String.toList_ofList]
  exact trimmed_trimChars s.toList

/-- A text without white space at either end is left as it is. -/
theorem trim_of_trimmed {s : String} (h : Trimmed s.toList) : trim s = s := by
  rw [trim, trimChars_of_trimmed h, String.ofList_toList]

/-- Trimmed texts that are not empty have nothing to be trimmed when they are joined. -/
theorem trim_append_trim {s t : String} (hs : trim s ≠ "") (ht : trim t ≠ "") (middle : String) :
    trim (trim s ++ middle ++ trim t) = trim s ++ middle ++ trim t := by
  have hnil : ∀ r : String, trim r ≠ "" → (trim r).toList ≠ [] := fun r hr heq =>
    hr (String.toList_inj.1 heq)
  refine trim_of_trimmed ?_
  rw [String.toList_append, String.toList_append]
  exact (trimmed_trim s).append (trimmed_trim t) (hnil s hs) (hnil t ht) middle.toList

/-- A tab, a no-break space and an ideographic space are white space; a zero width space is
not. -/
example : trim "\t\u00a0 a b\u3000" = "a b" ∧ trim "\u200ba" = "\u200ba" := by decide

end ScreenSynthesis.Text
