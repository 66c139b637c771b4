import ScreenSynthesis.CommandLine.Report

/-!
# The text of printed reports

`printJson` and `printHuman` are put together from the printers of values and of single lines. Here
the whole text is written out: `valueOutput` and `peopleOutput` say what stands around the reports,
`valueText` what stands in a report that is printed as a value.

## Key results

- `Json.pretty_object`: an object over several lines, member by member
- `pretty_toJson`: a report is printed as `valueText`
- `printJson_eq`, `printHuman_eq`: what is printed for some reports
-/

namespace ScreenSynthesis

namespace Json

/-- The blanks in front of a line at a level. -/
def indent (level : Nat) : String := String.ofList (List.replicate (2 * level) ' ')

/-- What stands in front of each of some texts can be moved into the separator. -/
private theorem intercalate_map_append (separator front : String) {parts : List String}
    (h : parts ≠ []) :
    separator.intercalate (parts.map (front ++ ·)) =
      front ++ (separator ++ front).intercalate parts := by
  induction parts with
  | nil => exact absurd rfl h
  | cons part rest ih =>
    by_cases hrest : rest = []
    · simp [hrest]
    · rw [List.map_cons, String.intercalate_cons_of_ne_nil (by simpa using hrest), ih hrest,
        String.intercalate_cons_of_ne_nil hrest]
      simp only [String.append_assoc]

/-- A `block` that is not empty starts each of its parts on a line of its own. -/
private theorem block_eq (level : Nat) (opening closing : String) {parts : List String}
    (h : parts ≠ []) :
    block level opening closing parts =
      opening ++ "\n" ++ indent (level + 1) ++ (",\n" ++ indent (level + 1)).intercalate parts ++
        ("\n" ++ indent level ++ closing) := by
  have hempty : parts.isEmpty = false := by simpa using h
  simp only [block, hempty, Bool.false_eq_true, if_false]
  rw [show (fun part => String.ofList (List.replicate (2 * (level + 1)) ' ') ++ part) =
    (indent (level + 1) ++ ·) from rfl, intercalate_map_append _ _ h]
  simp only [indent, String.append_assoc]

private theorem prettyItems_eq_map (charset : Charset) (level : Nat) (items : List Json) :
    prettyItems charset level items = items.map (pretty charset level) := by
  induction items with
  | nil => rfl
  | cons x rest ih => rw [prettyItems, ih, List.map_cons]

private theorem prettyMembers_eq_map (charset : Charset) (level : Nat)
    (members : List (String × Json)) :
    prettyMembers charset level members =
      members.map fun m => stringText charset m.1 ++ ": " ++ pretty charset level m.2 := by
  induction members with
  | nil => rfl
  | cons m rest ih => rw [prettyMembers, ih, List.map_cons]

/-- An object is printed member by member, each on a line of its own. -/
theorem pretty_object (charset : Charset) (level : Nat) {members : List (String × Json)}
    (h : members ≠ []) :
    pretty charset level (.object members) =
      "\x7b" ++ "\n" ++ indent (level + 1) ++
        (",\n" ++ indent (level + 1)).intercalate
          (members.map fun m => stringText charset m.1 ++ ": " ++ pretty charset (level + 1) m.2) ++
        ("\n" ++ indent level ++ "\x7d") := by
  rw [pretty, prettyMembers_eq_map, block_eq _ _ _ fun hnil => h (List.map_eq_nil_iff.1 hnil)]

/-- An array is printed item by item, each on a line of its own. -/
private theorem pretty_array (charset : Charset) (level : Nat) {items : List Json}
    (h : items ≠ []) :
    pretty charset level (.array items) =
      "[" ++ "\n" ++ indent (level + 1) ++
        (",\n" ++ indent (level + 1)).intercalate (items.map (pretty charset (level + 1))) ++
        ("\n" ++ indent level ++ "]") := by
  rw [pretty, prettyItems_eq_map, block_eq _ _ _ fun hnil => h (List.map_eq_nil_iff.1 hnil)]

private theorem pretty_nat (charset : Charset) (level n : Nat) :
    pretty charset level (.nat n) = toString n :=
  rfl

private theorem pretty_string (charset : Charset) (level : Nat) (s : String) :
    pretty charset level (.string s) = stringText charset s :=
  rfl

private theorem pretty_bool (charset : Charset) (level : Nat) (b : Bool) :
    pretty charset level (.bool b) = if b then "true" else "false" := by
  cases b <;> rfl

end Json

namespace CommandLine

open Json

/-- The text of a report that is printed as a value, two levels below the output. -/
def valueText (r : UnitReport) : String :=
  "\x7b\n      " ++ ",\n      ".intercalate (
    ["\"path\": " ++ stringText .any r.path,
      "\"unit\": " ++ stringText .any r.unit,
      "\"candidates\": " ++ toString r.candidates,
      "\"diagnostics\": " ++ pretty .any 3 (.array (r.diagnostics.map Diagnostic.toJson)),
      "\"symbols\": " ++ pretty .any 3 (.array (r.symbols.map Symbol.toJson))] ++
    (if r.annotations = [] then []
      else ["\"annotations\": " ++
        pretty .any 3 (.array (r.annotations.map LineAnnotation.toJson))]) ++
    r.rendered.toList.map ("\"rendered\": " ++ stringText .any ·) ++
    ["\"fatal\": " ++ if r.fatal then "true" else "false"]) ++ "\n    \x7d"

/-- The output for some reports as a value: how many there are, how many are fatal, whether all is
`ok`, and the reports in their order. -/
def valueOutput (rs : List UnitReport) (ok : Bool) : String :=
  "\x7b\n  " ++ ",\n  ".intercalate
    ["\"units\": " ++ toString rs.length,
      "\"failed\": " ++ toString (rs.countP (·.fatal)),
      "\"ok\": " ++ (if ok then "true" else "false"),
      "\"reports\": " ++ ("[\n    " ++ ",\n    ".intercalate (rs.map valueText) ++ "\n  ]")] ++
    "\n\x7d\n"

/-- The output for some reports to be read by people. -/
def peopleOutput (coloured : Bool) (rs : List UnitReport) (ok : Bool) : String :=
  String.join (rs.map (reportText coloured)) ++
    (if ok then
      (if coloured then "\x1b[1;32mOK\x1b[0m" else "OK") ++ " " ++ toString rs.length ++
        " unit(s) processed"
    else
      (if coloured then "\x1b[1;31mFAILED\x1b[0m" else "FAILED") ++ " " ++
        toString (rs.countP (·.fatal)) ++ " of " ++ toString rs.length ++ " unit(s) have errors") ++
    "\n"

/-- A report is printed as `valueText`, two levels below the output. -/
theorem pretty_toJson (r : UnitReport) : pretty .any 2 r.toJson = valueText r := by
  have hopening : "\x7b" ++ "\n" ++ indent 3 = "\x7b\n      " := by decide
  have hseparator : ",\n" ++ indent 3 = ",\n      " := by decide
  have hclosing : "\n" ++ indent 2 ++ "\x7d" = "\n    \x7d" := by decide
  have hpath : stringText .any "path" ++ ": " = "\"path\": " := by decide
  have hunit : stringText .any "unit" ++ ": " = "\"unit\": " := by decide
  have hcandidates : stringText .any "candidates" ++ ": " = "\"candidates\": " := by decide
  have hdiagnostics : stringText .any "diagnostics" ++ ": " = "\"diagnostics\": " := by decide
  have hsymbols : stringText .any "symbols" ++ ": " = "\"symbols\": " := by decide
  have hannotations : stringText .any "annotations" ++ ": " = "\"annotations\": " := by decide
  have hrendered : stringText .any "rendered" ++ ": " = "\"rendered\": " := by decide
  have hfatal : stringText .any "fatal" ++ ": " = "\"fatal\": " := by decide
  rw [UnitReport.toJson, pretty_object _ _ (by simp), hopening, hseparator, hclosing, valueText]
  -- the members that may be missing are missing in both
  cases r.annotations <;> cases r.rendered <;>
    simp only [List.isEmpty_nil, List.isEmpty_cons, Option.toList_none, Option.toList_some,
      List.map_append, List.map_cons, List.map_nil, if_true, if_false, Bool.false_eq_true,
      reduceCtorEq, hpath, hunit, hcandidates, hdiagnostics, hsymbols, hannotations, hrendered,
      hfatal, pretty_nat, pretty_bool, pretty_string]

/-- Reports are printed as `valueOutput`, which is `ok` if there are no `failures`. -/
theorem printJson_eq {rs : List UnitReport} (h : rs ≠ []) :
    printJson rs = valueOutput rs (failures rs = 0) := by
  have hopening : "\x7b" ++ "\n" ++ indent 1 = "\x7b\n  " := by decide
  have hseparator : ",\n" ++ indent 1 = ",\n  " := by decide
  have hclosing : "\n" ++ indent 0 ++ "\x7d" ++ "\n" = "\n\x7d\n" := by decide
  have hunits : stringText .any "units" ++ ": " = "\"units\": " := by decide
  have hfailed : stringText .any "failed" ++ ": " = "\"failed\": " := by decide
  have hok : stringText .any "ok" ++ ": " = "\"ok\": " := by decide
  have hreports : stringText .any "reports" ++ ": " = "\"reports\": " := by decide
  have hitems : pretty .any 1 (.array (rs.map UnitReport.toJson)) =
      "[\n    " ++ ",\n    ".intercalate (rs.map valueText) ++ "\n  ]" := by
    have hfirst : "[" ++ "\n" ++ indent 2 = "[\n    " := by decide
    have hnext : ",\n" ++ indent 2 = ",\n    " := by decide
    have hlast : "\n" ++ indent 1 ++ "]" = "\n  ]" := by decide
    rw [pretty_array _ _ (by simpa using h), hfirst, hnext, hlast, List.map_map]
    exact congrArg (fun texts => _ ++ String.intercalate _ texts ++ _)
      (List.map_congr_left fun r _ => pretty_toJson r)
  rw [printJson, reportsToJson, pretty_object _ _ (List.cons_ne_nil _ _), hopening, hseparator,
    String.append_assoc, hclosing, valueOutput]
  simp only [List.map_cons, List.map_nil, hunits, hfailed, hok, hreports, pretty_nat, pretty_bool,
    hitems]
  rfl

/-- Reports are printed for people as `peopleOutput`, and its last line says whether there are
`failures`. -/
theorem printHuman_eq (coloured : Bool) (rs : List UnitReport) :
    printHuman coloured rs = peopleOutput coloured rs (failures rs = 0) := by
  have hok : paint coloured .boldGreen "OK" = if coloured then "\x1b[1;32mOK\x1b[0m" else "OK" := by
    cases coloured <;> decide
  have hfailed : paint coloured .boldRed "FAILED" =
      if coloured then "\x1b[1;31mFAILED\x1b[0m" else "FAILED" := by
    cases coloured <;> decide
  by_cases hfailures : failures rs = 0
  · simp only [printHuman, verdict, peopleOutput, hfailures, hok, decide_true, if_true]
  · simp only [printHuman, verdict, peopleOutput, hfailures, hfailed, decide_false, if_false,
      Bool.false_eq_true]
    rfl

end CommandLine

end ScreenSynthesis
