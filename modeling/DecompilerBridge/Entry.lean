import DecompilerBridge.Text.Blank
import DecompilerBridge.Text.Quoted

/-!
# The entry call

The entry of the scripts: the function `r2dec_main`, called with the words of the argument text.

The words enter the expression as a JSON array literal, so nothing in them can be taken for code.
-/

set_option autoImplicit false

namespace DecompilerBridge.Entry

open Text

/-- The global function that the driver defines. -/
def functionName : String := "r2dec_main"

/-- What is printed when the driver did not define it. -/
def missingText : String :=
  "r2dec_main is missing: cannot use R2DEC_HOME or the r2pm install path."

/-- The array literal of the words of an argument text. -/
def literal (args : String) : List Char := jsonStrings (wordLists args.toList)

/-- The code before the array literal. -/
def opening : String := "if (typeof r2dec_main == 'function') \x7b r2dec_main("

/-- The code between the array literal and the literal of the message. -/
def between : String := "); \x7d else \x7b console.log("

/-- The code after both literals. -/
def ending : String := "); \x7d"

/-- The code after the array literal. -/
def closing : String := between ++ String.ofList (jsonString missingText.toList) ++ ending

/-- The expression that calls the entry function. -/
def expression (args : String) : String := opening ++ String.ofList (literal args) ++ closing

end DecompilerBridge.Entry
