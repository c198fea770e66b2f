/-
Fragments: the text of a generated file.

A fragment is a fixed banner, an empty line and the declaration of an array with one
record for each entry. It is meant to be included by code that declares the type of the
records. Everything is laid out line by line, and every line ends in a line feed.
-/
import ErrorTable.Entry
import ErrorTable.Text.Lines

namespace ErrorTable.Fragment

/-- The lines of the banner. -/
def bannerLines : List String :=
  ["/*",
    " * Author: XueShuming",
    " *",
    " * Copyright (C) 2021 FMSoft <https://www.fmsoft.cn>",
    " *",
    " * This file is a part of PurC (short for Purring Cat), an HVML interpreter.",
    " *",
    " * This program is free software: you can redistribute it and/or modify",
    " * it under the terms of the GNU Lesser General Public License as published by",
    " * the Free Software Foundation, either version 3 of the License, or",
    " * (at your option) any later version.",
    " *",
    " * This program is distributed in the hope that it will be useful,",
    " * but WITHOUT ANY WARRANTY; without even the implied warranty of",
    " * MERCHANTABILITY or FITNESS FOR A PARTICULAR PURPOSE.  See the",
    " * GNU Lesser General Public License for more details.",
    " *",
    " * You should have received a copy of the GNU Lesser General Public License",
    " * along with this program.  If not, see <https://www.gnu.org/licenses/>",
    " */",
    "",
    " // NOTE",
    " // This file is auto-generated by using 'make-error-info'.",
    " // Please take care when you modify this file manually.",
    ""]

/-- The banner at the top of every fragment. -/
def banner : String := Text.unlines bannerLines

/-- The struct type of the records. -/
def recordType : String := "err_msg_info"

/-- The lines of one record: a comment that names the code, then the message, the
exception, the flag and a reserved zero between braces. -/
def recordLines (entry : Entry) : List String :=
  ["    /* " ++ entry.code ++ " */",
    "    \x7b",
    "        " ++ entry.message ++ ",",
    "        " ++ entry.exception ++ ",",
    "        " ++ entry.flag ++ ",",
    "        0",
    "    \x7d,"]

/-- The line that opens the declaration of the array. -/
def openingLine (arrayName : String) : String :=
  "static struct " ++ recordType ++ " " ++ arrayName ++ "[] = \x7b"

/-- The line that closes the declaration of the array. -/
def closingLine : String := "\x7d;"

/-- The lines of the declaration of the array. -/
def tableLines (arrayName : String) (entries : List Entry) : List String :=
  openingLine arrayName :: (entries.flatMap recordLines ++ [closingLine])

/-- The declaration of the array, without the banner. -/
def renderTable (arrayName : String) (entries : List Entry) : String :=
  Text.unlines (tableLines arrayName entries)

/-- The complete fragment. -/
def render (arrayName : String) (entries : List Entry) : String :=
  banner ++ "\n" ++ renderTable arrayName entries

/-- A record takes seven lines, and the declaration two more. -/
theorem length_tableLines (arrayName : String) (entries : List Entry) :
    (tableLines arrayName entries).length = 2 + 7 * entries.length := by
  have records : (entries.flatMap recordLines).length = 7 * entries.length := by
    induction entries with
    | nil => rfl
    | cons entry entries ih => simp [ih, recordLines]; omega
  simp [tableLines, records]; omega

end ErrorTable.Fragment
