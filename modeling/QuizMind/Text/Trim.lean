import QuizMind.Runtime
import QuizMind.Text.Tokens

/-! # Trimming

A trimmed text is trimmed already.
-/

namespace QuizMind

open Text

theorem toList_jsTrim (s : String) : (jsTrim s).toList = strip isJsSpace s.toList := by
  simp only [jsTrim, strip, List.rdropWhile, String.toList_ofList]

theorem jsTrim_jsTrim (s : String) : jsTrim (jsTrim s) = jsTrim s := by
  have hchars : (jsTrim (jsTrim s)).toList = (jsTrim s).toList := by
    rw [toList_jsTrim, toList_jsTrim, strip_strip]
  exact String.toList_injective hchars

end QuizMind
