/-
# ModuleBundler.Shell.Tool -- the programs that are installed

Programs are kept in a few directories, under the names of this table.
-/

import ModuleBundler.Shell.Tool.File
import ModuleBundler.Shell.Tool.Text

namespace ModuleBundler.Shell.Tool

/-- All programs, by name. -/
def all : List (String × Tool) := texts ++ files

/-- The names of all programs. -/
def names : List String := all.map Prod.fst

/-- The program of a name. -/
def ofName? (name : String) : Option Tool :=
  (all.find? fun entry => entry.1 == name).map Prod.snd

end ModuleBundler.Shell.Tool
