-- Picture formats: which endings of file names stand for them, which of them
-- take a picture of red, green and blue, and what is read back.
import Chip8.Picture.Resized
import Chip8.Refusal
namespace Chip8.Picture

structure Format where
  name : String
  /-- The endings of its file names, in small letters. -/
  endings : List String
  /-- Why the format cannot be opened for writing. -/
  closed : Option PictureProblem := none
  /-- Why the format takes no picture of red, green and blue. -/
  refusal : Option PictureProblem := none
  /-- What becomes of a picture without pixels. -/
  whenEmpty : Option PictureProblem := some .empty
  /-- Why a picture in the format cannot be read back from a file. -/
  unread : String → Option PictureProblem := fun _ => none
  /-- What is read back of a picture. -/
  stored : Image → Image := id

namespace Format

/-- A format that can only be read. -/
def readOnly (name : String) (endings : List String) : Format :=
  { name, endings, closed := some (.readOnly name) }

/-- A format that refuses every picture of red, green and blue. -/
def refusing (name : String) (endings : List String) (problem : PictureProblem) : Format :=
  { name, endings, refusal := some problem }

/-- A format that has a problem of its own with pictures without pixels. -/
def withEmpty (name : String) (endings : List String) (problem : PictureProblem) : Format :=
  { name, endings, whenEmpty := some problem }

/-- What formats of photographs say of a picture without pixels. -/
def emptyPhoto : PictureProblem := .emptyIn "cannot write empty image as JPEG"

/-- The formats that take a picture. -/
def writable : List Format := [
  { name := "PNG", endings := [".png", ".apng"] },
  { name := "BMP", endings := [".bmp"] },
  { name := "DIB", endings := [".dib"] },
  { name := "GIF", endings := [".gif"] },
  { name := "TIFF", endings := [".tif", ".tiff"] },
  { name := "PPM", endings := [".pbm", ".pgm", ".ppm", ".pnm", ".pfm"] },
  { name := "TGA", endings := [".tga", ".icb", ".vda", ".vst"] },
  { name := "IM", endings := [".im"] },
  { name := "DDS", endings := [".dds"] },
  { name := "JPEG2000", endings := [".jp2", ".j2k", ".jpc", ".jpf", ".jpx", ".j2c"] },
  { name := "ICO", endings := [".ico"], stored := Icon.shown },
  { name := "ICNS", endings := [".icns"], stored := Icon.squareShown },
  { name := "SGI", endings := [".bw", ".rgb", ".rgba", ".sgi"], whenEmpty := none },
  { name := "EPS", endings := [".eps", ".ps"], unread := fun _ => some .noInterpreter },
  .withEmpty "PCX" [".pcx"] (.emptyIn "Cannot write empty image as PCX"),
  .withEmpty "QOI" [".qoi"] (.emptyIn "Size must be positive"),
  .withEmpty "JPEG" [".jpg", ".jpeg", ".jpe", ".jfif"] emptyPhoto,
  .withEmpty "MPO" [".mpo"] emptyPhoto,
  { name := "PDF", endings := [".pdf"], whenEmpty := some emptyPhoto
    unread := fun file => some (.unreadable file) },
  .withEmpty "WEBP" [".webp"] .noFrame,
  .withEmpty "AVIF" [".avif", ".avifs"] (.emptyIn "invalid canvas dimensions")]

/-- The formats that do not take a picture. -/
def unwritable : List Format := [
  .refusing "XBM" [".xbm"] (.noColors "XBM"),
  .refusing "MSP" [".msp"] (.noColors "MSP"),
  .refusing "PALM" [".palm"] (.noColors "Palm"),
  .refusing "BLP" [".blp"] .noTexture,
  .refusing "HDF5" [".h5", ".hdf"] (.noWriter "HDF5"),
  .refusing "GRIB" [".grib"] (.noWriter "GRIB"),
  .refusing "BUFR" [".bufr"] (.noWriter "BUFR"),
  .refusing "WMF" [".wmf", ".emf"] (.noWriter "WMF"),
  .readOnly "PSD" [".psd"],
  .readOnly "XPM" [".xpm"],
  .readOnly "FITS" [".fit", ".fits"],
  .readOnly "SUN" [".ras"],
  .readOnly "FTEX" [".ftc", ".ftu"],
  .readOnly "DCX" [".dcx"],
  .readOnly "FLI" [".fli", ".flc"],
  .readOnly "GBR" [".gbr"],
  .readOnly "IPTC" [".iim"],
  .readOnly "MPEG" [".mpg", ".mpeg"],
  .readOnly "PCD" [".pcd"],
  .readOnly "PIXAR" [".pxr"],
  .readOnly "CUR" [".cur"]]

/-- The format of an ending in small letters. -/
def ofEnding (ending : String) : Except PictureProblem Format :=
  match (writable ++ unwritable).find? (·.endings.contains ending) with
  | some format => .ok format
  | none => .error (.unknownEnding ending)

end Format

end Chip8.Picture
