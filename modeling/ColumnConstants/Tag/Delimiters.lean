namespace ColumnConstants.Tag

def withoutOpening (tag : List Char) : List Char :=
  if tag.head? = some '\x60' then tag.tail else tag

def withoutClosing (tag : List Char) : List Char :=
  if tag.getLast? = some '\x60' then tag.dropLast else tag

-- The tag without the backticks around it.
-- The two ends are looked at one after the other and on their own: a tag may have a backtick at one
-- end only, and a tag that is a single backtick has nothing left for its other end.
def stripDelimiters (tag : List Char) : List Char :=
  withoutClosing (withoutOpening tag)

theorem stripDelimiters_enclosed (text : List Char) :
    stripDelimiters ('\x60' :: (text ++ ['\x60'])) = text := by
  simp [stripDelimiters, withoutOpening, withoutClosing]

theorem stripDelimiters_bare {text : List Char} (hf : text.head? ≠ some '\x60')
    (hl : text.getLast? ≠ some '\x60') : stripDelimiters text = text := by
  rw [stripDelimiters, withoutOpening, if_neg hf, withoutClosing, if_neg hl]

end ColumnConstants.Tag
