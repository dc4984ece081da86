/-
# Counts and the lines of a file

No file is counted with more lines than its bytes have, on whichever route it is
classified. The routes cut a file into lines in two ways: block comments are counted
in the text that is read from the bytes, where a byte order mark and whatever belongs
to no character are missing, and languages are counted in the bytes, which are cut at
line feeds only. Neither way gives a line that is not a physical line of the bytes.

How the lines of a language are counted, and which parts of a file are counted for
another language, is left open. What is asked of a counter is what its figures are said
to be: numbers of lines of the file, each line being behind one figure at most.
-/

import SourceLines.Proofs.FileSorts
import SourceLines.Proofs.LanguageCounts

namespace SourceLines

/-! ## Lines of the text -/

namespace BlockComment

end BlockComment

/-! ## The routes of a file -/

namespace Detector

variable {counter : Language.Counter} {lookup : Language.Lookup} {path : String}
  {content : Bytes} {file : ClassifiedFile}

end Detector

namespace Settings

variable {settings : Settings} {counter : Language.Counter} {lookup : Language.Lookup}
  {system : FileSystem} {path : String} {content : Bytes} {file : ClassifiedFile}

end Settings

end SourceLines
