import Abacus.Text.Blank
import Abacus.Text.Utf8

/-!
# Directives as they are given

A directive is read without the blanks around it, but its pieces are cut out of the text as it was
given, at the places, counted in bytes, that they have in what is read. So blanks in front shift
each piece to the left. Without blanks around it, a piece is what it seems to be (`piece_eq`,
`tail_eq`).
-/

namespace Abacus.Log

/-- A text, and what is read of it. -/
structure Source where
  text : Text
  body : Text

namespace Source

/-- A text is read without the blanks around it. -/
def ofText (text : Text) : Source :=
  ⟨text, trim text⟩

/-- The place in the body of what is left of it. -/
def place (source : Source) (rest : Text) : Nat :=
  (Utf8.encode source.body).length - (Utf8.encode rest).length

/-- What is cut out between two places, each given by what is left of the body there. -/
def piece (source : Source) (start stop : Text) : Text :=
  Utf8.decodeLossy (((Utf8.encode source.text).take (source.place stop)).drop (source.place start))

/-- What is cut off at a place. -/
def tail (source : Source) (start : Text) : Text :=
  Utf8.decodeLossy ((Utf8.encode source.text).drop (source.place start))

theorem place_append {source : Source} {front rest : Text} (h : source.body = front ++ rest) :
    source.place rest = (Utf8.encode front).length := by
  rw [place, h, Utf8.encode_append, List.length_append, Nat.add_sub_cancel]

/-- Without blanks around it, a piece of a text is what stands between the places. -/
theorem piece_eq {text front middle rest : Text} (h : text = front ++ (middle ++ rest)) :
    piece ⟨text, text⟩ (middle ++ rest) rest = middle := by
  have hstart : place ⟨text, text⟩ (middle ++ rest) = (Utf8.encode front).length :=
    place_append h
  have hstop : place ⟨text, text⟩ rest = (Utf8.encode front ++ Utf8.encode middle).length := by
    rw [← Utf8.encode_append]
    exact place_append (by rw [List.append_assoc]; exact h)
  rw [piece, hstart, hstop]
  simp only [h, Utf8.encode_append]
  rw [← List.append_assoc, List.take_left, List.drop_left, Utf8.decodeLossy_encode]

/-- Without blanks around it, what is cut off a text is what is left of it. -/
theorem tail_eq {text front rest : Text} (h : text = front ++ rest) :
    tail ⟨text, text⟩ rest = rest := by
  have hstart : place ⟨text, text⟩ rest = (Utf8.encode front).length := place_append h
  rw [tail, hstart]
  simp only [h, Utf8.encode_append]
  rw [List.drop_left, Utf8.decodeLossy_encode]

end Source

end Abacus.Log
