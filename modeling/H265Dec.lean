import H265Dec.Parsed
import H265Dec.Std
import H265Dec.Convert
import H265Dec.Compare
import H265Dec.Cache
import H265Dec.PictureData
import H265Dec.Bitstream
import H265Dec.RefSet
import H265Dec.Picture
import H265Dec.Decoder
import H265Dec.Runs
import H265Dec.Backend
