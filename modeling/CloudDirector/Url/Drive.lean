/-!
# Drive letters

A file may lie on a drive, which is named by a letter and a colon. A bar may stand for the colon.
Going up in a path does not leave the drive.
-/
namespace CloudDirector.Url

def isDriveMark (c : Char) : Bool := c == ':' || c == '|'

def isDriveLetter (segment : List Char) : Bool :=
  match segment with
  | [letter, mark] => letter.isAlpha && isDriveMark mark
  | _ => false

def isDriveColon (segment : List Char) : Bool :=
  isDriveLetter segment && segment.getLast? == some ':'

def withDriveColon (segment : List Char) : List Char :=
  if isDriveLetter segment then segment.take 1 ++ [':'] else segment

def beginsWithDrive (segment : List Char) : Bool :=
  isDriveLetter (segment.take 2) && (segment.drop 2).head?.all (· == '\\')

theorem withDriveColon_of_not {segment : List Char} (h : isDriveLetter segment = false) :
    withDriveColon segment = segment := by simp [withDriveColon, h]

theorem isDriveColon_withDriveColon {segment : List Char} (h : isDriveLetter segment = true) :
    isDriveColon (withDriveColon segment) = true := by
  match segment, h with
  | [letter, mark], h =>
    have hl : letter.isAlpha = true := by
      simp only [isDriveLetter, Bool.and_eq_true] at h
      exact h.1
    simp only [withDriveColon, h]
    simp [isDriveColon, isDriveLetter, isDriveMark, hl]

end CloudDirector.Url
